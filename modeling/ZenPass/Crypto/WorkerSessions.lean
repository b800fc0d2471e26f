import ZenPass.Crypto.KeyHierarchy
import ZenPass.Lib.Transition

set_option autoImplicit false

namespace ZenPass.Crypto.Worker

open Cbor (Bytes)
open Transition

def inspectEnvelope (cbor : Minicbor) (envelope : Bytes) : Except Error Context := do
  let parts ← decodeEnvelope cbor envelope
  let ctx ← decodeAad cbor parts.aad
  if parts.kind ≠ ctx.recordKind then .error .invalidContext else .ok ctx

-- A message whose keys or types are not those of a request is `none` below; a bigint is an `Int`, and
-- so is a session, whose number may be any integer.
inductive CryptoRequest where
  | unlockItemSession (id : String) (password kdfParametersCbor : Bytes)
    (reportedPhysicalMemoryKiB : Int) (accountId vaultId itemId : String)
    (accountKeyVersion vaultKeyVersion itemKeyVersion : Int)
    (wrappedAccountKey wrappedVaultKey wrappedItemKey : Bytes)
  | createAccountSetup (id : String) (password : Bytes) (reportedPhysicalMemoryKiB : Int)
    (accountId vaultId itemId : String)
  | unlockItemSessionWithRecovery (id : String) (recoveryKey : Bytes)
    (accountId vaultId itemId : String) (accountKeyVersion vaultKeyVersion itemKeyVersion : Int)
    (wrappedAccountKey wrappedVaultKey wrappedItemKey : Bytes)
  | sealItemPayload (id : String) (session : Int) (accountId vaultId itemId : String)
    (keyVersion : Int) (plaintext : Bytes)
  | openItemPayload (id : String) (session : Int) (accountId vaultId itemId : String)
    (keyVersion : Int) (envelope : Bytes)
  | inspectEnvelope (id : String) (envelope : Bytes)
  | lock (id : String)

inductive CryptoResponse where
  | session (id : String) (session : UInt32)
  | bytes (id : String) (bytes : Bytes)
  | metadata (id : String) (metadata : Context)
  | locked (id : String)
  | accountSetup (id : String) (result : AccountSetupResult)
  | failed (id error : String)

def maxItemBytes : Nat := 1024 * 1024
def maxEnvelopeBytes : Nat := maxItemBytes + 1024 + 16

-- `Number.isSafeInteger(session) && session >= 0`, and a positive version
def contextOk (session keyVersion : Int) : Bool :=
  decide (0 ≤ session ∧ session ≤ 2 ^ 53 - 1 ∧ 0 < keyVersion)

def isRequest : CryptoRequest → Bool
  | .unlockItemSession _ password kdfParametersCbor reported _ _ _ accountKeyVersion vaultKeyVersion
      itemKeyVersion wrappedAccountKey wrappedVaultKey wrappedItemKey =>
    decide (password.length ≤ maxItemBytes ∧ kdfParametersCbor.length ≤ 64 * 1024 ∧
      wrappedAccountKey.length ≤ 64 * 1024 ∧ wrappedVaultKey.length ≤ 64 * 1024 ∧
      wrappedItemKey.length ≤ 64 * 1024 ∧ 0 < reported ∧ 0 < accountKeyVersion ∧
      0 < vaultKeyVersion ∧ 0 < itemKeyVersion)
  | .createAccountSetup _ password reported _ _ _ =>
    decide (password.length ≤ maxItemBytes ∧ 0 < reported)
  | .unlockItemSessionWithRecovery _ recoveryKey _ _ _ accountKeyVersion vaultKeyVersion
      itemKeyVersion wrappedAccountKey wrappedVaultKey wrappedItemKey =>
    decide (recoveryKey.length ≤ 64 ∧ wrappedAccountKey.length ≤ 64 * 1024 ∧
      wrappedVaultKey.length ≤ 64 * 1024 ∧ wrappedItemKey.length ≤ 64 * 1024 ∧
      0 < accountKeyVersion ∧ 0 < vaultKeyVersion ∧ 0 < itemKeyVersion)
  | .sealItemPayload _ session _ _ _ keyVersion plaintext =>
    contextOk session keyVersion && decide (plaintext.length ≤ maxItemBytes)
  | .openItemPayload _ session _ _ _ keyVersion envelope =>
    contextOk session keyVersion && decide (envelope.length ≤ maxEnvelopeBytes)
  | .inspectEnvelope _ envelope => decide (envelope.length ≤ maxEnvelopeBytes)
  | .lock _ => true

def errorCodes : List String :=
  ["InvalidEncoding", "UnsupportedVersion", "NonCanonicalCbor", "UnknownField", "InvalidContext",
    "InvalidNonce", "AuthenticationFailed", "InvalidKdfParameters", "KdfResourceLimit",
    "InvalidKeyLength", "InvalidRecoveryKit", "Locked", "Internal"]

def errorCode (thrown : String) : String := if thrown ∈ errorCodes then thrown else "Internal"

-- a bigint as the glue passes it for a `u64`
def asU64 (value : Int) : UInt64 := UInt64.ofNat value.toNat

structure CryptoWorkerHost where
  -- a `Set<number>`, in the order of its insertions
  sessions : List UInt32
  wasm : WasmCrypto
  -- every id a response has handed out, which no code reads
  opened : List UInt32

def CryptoWorkerHost.new : CryptoWorkerHost where
  sessions := []
  wasm := .new
  opened := []

namespace CryptoWorkerHost

def has (host : CryptoWorkerHost) (session : Int) : Bool :=
  host.sessions.any fun id => (id.toNat : Int) == session

def addSession (host : CryptoWorkerHost) (session : UInt32) : CryptoWorkerHost :=
  { host with
    sessions := if session ∈ host.sessions then host.sessions else host.sessions ++ [session]
    opened := host.opened ++ [session] }

-- `close_session` removes an entry and cannot fail, so no close of the loop throws.
def closeAll (host : CryptoWorkerHost) : CryptoWorkerHost :=
  { host with
    sessions := []
    wasm := host.sessions.foldl WasmCrypto.closeSession host.wasm }

def dispose (host : CryptoWorkerHost) : CryptoWorkerHost := host.closeAll

-- a session the core has returned, or what it has thrown
def opening (host : CryptoWorkerHost) (id : String) :
    Except String UInt32 × WasmCrypto → CryptoResponse × CryptoWorkerHost
  | (.ok session, wasm) => (.session id session, { host with wasm }.addSession session)
  | (.error thrown, wasm) => (.failed id (errorCode thrown), { host with wasm })

def answerBytes (id : String) : Except String Bytes → CryptoResponse
  | .ok bytes => .bytes id bytes
  | .error thrown => .failed id (errorCode thrown)

variable (cbor : Minicbor) (aead : Aead) (argon2 : Argon2)

def answer (host : CryptoWorkerHost) (random : SetupRandom) (nonce : Nonce) :
    CryptoRequest → CryptoResponse × CryptoWorkerHost
  | .unlockItemSession id password kdfParametersCbor reported accountId vaultId itemId accountKeyVersion
      vaultKeyVersion itemKeyVersion wrappedAccountKey wrappedVaultKey wrappedItemKey =>
    host.opening id (host.wasm.unlockItemSession cbor aead argon2 password kdfParametersCbor
      (asU64 reported) accountId vaultId itemId (asU64 accountKeyVersion) (asU64 vaultKeyVersion)
      (asU64 itemKeyVersion) wrappedAccountKey wrappedVaultKey wrappedItemKey)
  | .createAccountSetup id password reported accountId vaultId itemId =>
    match host.wasm.createAccountSetup cbor aead argon2 random password (asU64 reported) accountId
        vaultId itemId with
    | (.ok result, wasm) => (.accountSetup id result, { host with wasm }.addSession result.session)
    | (.error thrown, wasm) => (.failed id (errorCode thrown), { host with wasm })
  | .unlockItemSessionWithRecovery id recoveryKey accountId vaultId itemId accountKeyVersion
      vaultKeyVersion itemKeyVersion wrappedAccountKey wrappedVaultKey wrappedItemKey =>
    host.opening id (host.wasm.unlockItemSessionWithRecovery cbor aead recoveryKey accountId vaultId
      itemId (asU64 accountKeyVersion) (asU64 vaultKeyVersion) (asU64 itemKeyVersion)
      wrappedAccountKey wrappedVaultKey wrappedItemKey)
  | .sealItemPayload id session accountId vaultId itemId keyVersion plaintext =>
    if host.has session then
      (answerBytes id (host.wasm.sealItemPayload cbor aead nonce (UInt32.ofNat session.toNat) accountId
        vaultId itemId (asU64 keyVersion) plaintext), host)
    else (.failed id "Locked", host)
  | .openItemPayload id session accountId vaultId itemId keyVersion envelope =>
    if host.has session then
      (answerBytes id (host.wasm.openItemPayload cbor aead (UInt32.ofNat session.toNat) accountId
        vaultId itemId (asU64 keyVersion) envelope), host)
    else (.failed id "Locked", host)
  | .inspectEnvelope id envelope =>
    match Worker.inspectEnvelope cbor envelope with
    | .ok metadata => (.metadata id metadata, host)
    | .error failed => (.failed id (errorCode (errorText failed)), host)
  | .lock id => (.locked id, host.closeAll)

def handle (host : CryptoWorkerHost) (random : SetupRandom) (nonce : Nonce) :
    Option CryptoRequest → CryptoResponse × CryptoWorkerHost
  | none => (.failed "" "InvalidEncoding", host)
  | some message =>
    if isRequest message then host.answer cbor aead argon2 random nonce message
    else (.failed "" "InvalidEncoding", host)

-- What happens to a host: a message, with what the core would draw for it, or the end of the worker
inductive Event where
  | message (message : Option CryptoRequest) (random : SetupRandom) (nonce : Nonce)
  | close

def step (host : CryptoWorkerHost) : Event → Option CryptoWorkerHost
  | .message message random nonce => some (host.handle cbor aead argon2 random nonce message).2
  | .close => some host.dispose

end CryptoWorkerHost

structure Opens (core : WasmCrypto) (session : UInt32) (core' : WasmCrypto) : Prop where
  id : session = core.nextSession
  next : core'.nextSession = core.nextSession + 1
  stored : ∃ item, core'.sessions = Function.update core.sessions session (some item)

theorem finish_cases (core : WasmCrypto) (opened : Except Error ItemKey) :
    (∃ session core', core.finish opened = (.ok session, core') ∧ Opens core session core') ∨
      ∃ thrown, core.finish opened = (.error thrown, core) := by
  cases opened with
  | error failed => exact Or.inr ⟨_, rfl⟩
  | ok item =>
    simp only [WasmCrypto.finish, WasmCrypto.openSession]
    split_ifs
    · exact Or.inl ⟨_, _, rfl, rfl, rfl, item, rfl⟩
    · exact Or.inr ⟨_, rfl⟩

theorem mapError_eq_ok {ε α : Type} {name : Error → ε} {source : Except Error α} {value : α} :
    source.mapError name = .ok value ↔ source = .ok value := by
  cases source with
  | ok _ => simp [Except.mapError]
  | error _ => simp [Except.mapError]

-- The parameters are valid before the session is stored, and encoding them cannot fail after it.
theorem createAccountSetup_cases {cbor : Minicbor} (conforms : cbor.Conforms) (aead : Aead)
    (argon2 : Argon2) (core : WasmCrypto) (random : SetupRandom) (password : Bytes) (reported : UInt64)
    (accountId vaultId itemId : String) :
    (∃ result core', core.createAccountSetup cbor aead argon2 random password reported accountId
        vaultId itemId = (.ok result, core') ∧ Opens core result.session core') ∨
      ∃ thrown, core.createAccountSetup cbor aead argon2 random password reported accountId vaultId
        itemId = (.error thrown, core) := by
  unfold WasmCrypto.createAccountSetup
  cases wrapped : WasmCrypto.wrapForSetup cbor aead argon2 random password reported accountId vaultId
    itemId with
  | error text => exact Or.inr ⟨_, rfl⟩
  | ok parts =>
    obtain ⟨params, accountWrap, vaultWrap, itemWrap, kit⟩ := parts
    simp only [WasmCrypto.wrapForSetup, bind_eq_ok] at wrapped
    obtain ⟨params', made, _, -, _, -, _, -, _, -, _, -, same⟩ := wrapped
    cases same
    have within := (KdfParams.new_eq_ok.mp (mapError_eq_ok.mp made)).1
    have encoded := (KdfParams.encodeCanonicalCbor_eq_ok conforms).mpr ⟨within, rfl⟩
    simp only [encoded]
    exact Or.inl ⟨_, _, rfl, rfl, rfl, random.item, rfl⟩

-- the session a response hands out
def CryptoResponse.opens : CryptoResponse → Option UInt32
  | .session _ opened => some opened
  | .accountSetup _ result => some result.session
  | _ => none

inductive Move (host : CryptoWorkerHost) : Option UInt32 → CryptoWorkerHost → Prop
  | stays : Move host none host
  | opens {session : UInt32} {wasm : WasmCrypto} :
    Opens host.wasm session wasm → Move host (some session) ({ host with wasm }.addSession session)
  | closes : Move host none host.closeAll

section Steps

variable {cbor : Minicbor} (conforms : cbor.Conforms) {aead : Aead} {argon2 : Argon2}
  {host : CryptoWorkerHost}

theorem opening_move (id : String) (opened : Except Error ItemKey) :
    Move host (host.opening id (host.wasm.finish opened)).1.opens
      (host.opening id (host.wasm.finish opened)).2 := by
  rcases finish_cases host.wasm opened with ⟨session, wasm, ended, opens⟩ | ⟨thrown, ended⟩
  · rw [ended]
    exact .opens opens
  · rw [ended]
    exact .stays

theorem answerBytes_opens (id : String) (result : Except String Bytes) :
    (CryptoWorkerHost.answerBytes id result).opens = none := by
  cases result <;> rfl

include conforms in
theorem answer_move (random : SetupRandom) (nonce : Nonce) (message : CryptoRequest) :
    Move host (host.answer cbor aead argon2 random nonce message).1.opens
      (host.answer cbor aead argon2 random nonce message).2 := by
  cases message with
  | unlockItemSession id password kdf reported accountId vaultId itemId accountVersion vaultVersion
      itemVersion wrappedAccount wrappedVault wrappedItem =>
    have chain := WasmCrypto.unlockItemSession_eq cbor aead argon2 host.wasm password
      ⟨accountId, vaultId, itemId, asU64 accountVersion, asU64 vaultVersion, asU64 itemVersion, kdf,
        asU64 reported, wrappedAccount, wrappedVault, wrappedItem⟩
    simp only [CryptoWorkerHost.answer]
    rw [chain]
    exact opening_move id _
  | createAccountSetup id password reported accountId vaultId itemId =>
    simp only [CryptoWorkerHost.answer]
    rcases createAccountSetup_cases conforms aead argon2 host.wasm random password (asU64 reported)
      accountId vaultId itemId with ⟨result, wasm, ended, opens⟩ | ⟨thrown, ended⟩
    · rw [ended]
      exact .opens opens
    · rw [ended]
      exact .stays
  | unlockItemSessionWithRecovery id recoveryKey accountId vaultId itemId accountVersion vaultVersion
      itemVersion wrappedAccount wrappedVault wrappedItem =>
    have chain := WasmCrypto.unlockItemSessionWithRecovery_eq cbor aead host.wasm recoveryKey
      ⟨accountId, vaultId, itemId, asU64 accountVersion, asU64 vaultVersion, asU64 itemVersion, [], 0,
        wrappedAccount, wrappedVault, wrappedItem⟩
    simp only [CryptoWorkerHost.answer]
    rw [chain]
    exact opening_move id _
  | sealItemPayload id session =>
    simp only [CryptoWorkerHost.answer]
    split_ifs
    · rw [answerBytes_opens]
      exact .stays
    · exact .stays
  | openItemPayload id session =>
    simp only [CryptoWorkerHost.answer]
    split_ifs
    · rw [answerBytes_opens]
      exact .stays
    · exact .stays
  | inspectEnvelope id envelope =>
    simp only [CryptoWorkerHost.answer]
    split <;> exact .stays
  | lock id => exact .closes

include conforms in
theorem handle_move (random : SetupRandom) (nonce : Nonce) (message : Option CryptoRequest) :
    Move host (host.handle cbor aead argon2 random nonce message).1.opens
      (host.handle cbor aead argon2 random nonce message).2 := by
  cases message with
  | none => exact .stays
  | some message =>
    simp only [CryptoWorkerHost.handle]
    split_ifs
    · exact answer_move conforms random nonce message
    · exact .stays

end Steps

theorem foldl_closeSession (ids : List UInt32) (core : WasmCrypto) (id : UInt32) :
    (ids.foldl WasmCrypto.closeSession core).nextSession = core.nextSession ∧
      (ids.foldl WasmCrypto.closeSession core).sessions id
        = if id ∈ ids then none else core.sessions id := by
  induction ids generalizing core with
  | nil => simp
  | cons first rest ih =>
    obtain ⟨next, closed⟩ := ih (core.closeSession first)
    rw [List.foldl_cons, next, closed]
    refine ⟨rfl, ?_⟩
    by_cases same : id = first
    · simp [same, WasmCrypto.closeSession]
    · simp [same, WasmCrypto.closeSession]

/-- The host tracks the live sessions, and the core counts the ids handed out. -/
structure Agreement (host : CryptoWorkerHost) : Prop where
  tracked : ∀ id, id ∈ host.sessions ↔ host.wasm.sessions id ≠ none
  next : host.wasm.nextSession.toNat = (host.opened.length + 1) % 2 ^ 32
  known : ∀ id ∈ host.sessions, id ∈ host.opened
  low : ∀ id ∈ host.opened, id.toNat ≤ host.opened.length
  distinct : host.opened.Nodup

theorem agreement_new : Agreement .new where
  tracked id := by simp [CryptoWorkerHost.new, WasmCrypto.new]
  next := rfl
  known := by simp [CryptoWorkerHost.new]
  low := by simp [CryptoWorkerHost.new]
  distinct := List.nodup_nil

theorem Agreement.live_eq_none {host : CryptoWorkerHost} (agreement : Agreement host) (id : UInt32) :
    host.closeAll.wasm.sessions id = none := by
  have closed := (foldl_closeSession host.sessions host.wasm id).2
  rw [CryptoWorkerHost.closeAll, closed]
  split_ifs with tracked
  · rfl
  · exact not_not.mp (mt (agreement.tracked id).mpr tracked)

theorem Agreement.closeAll {host : CryptoWorkerHost} (agreement : Agreement host) :
    Agreement host.closeAll where
  tracked id := by
    rw [agreement.live_eq_none id]
    simp [CryptoWorkerHost.closeAll]
  next := (congrArg UInt32.toNat (foldl_closeSession host.sessions host.wasm 0).1).trans agreement.next
  known := by simp [CryptoWorkerHost.closeAll]
  low := agreement.low
  distinct := agreement.distinct

-- The next id is above every id handed out, while they are fewer than 2^32.
theorem Agreement.fresh {host : CryptoWorkerHost} (agreement : Agreement host)
    (few : host.opened.length + 1 < 2 ^ 32) :
    host.wasm.nextSession.toNat = host.opened.length + 1 ∧ host.wasm.nextSession ∉ host.opened := by
  have next := agreement.next
  rw [Nat.mod_eq_of_lt few] at next
  refine ⟨next, fun member => ?_⟩
  have low := agreement.low _ member
  omega

theorem Agreement.open {host : CryptoWorkerHost} (agreement : Agreement host)
    (few : host.opened.length + 1 < 2 ^ 32) {session : UInt32} {wasm : WasmCrypto}
    (opens : Opens host.wasm session wasm) :
    Agreement ({ host with wasm }.addSession session) := by
  obtain ⟨rfl, next, item, stored⟩ := opens
  obtain ⟨number, fresh⟩ := agreement.fresh few
  have untracked : host.wasm.nextSession ∉ host.sessions := fun member =>
    fresh (agreement.known _ member)
  simp only [CryptoWorkerHost.addSession, if_neg untracked]
  constructor
  · intro id
    simp only [stored, List.mem_append, List.mem_singleton, Function.update_apply]
    split_ifs with same
    · simp [same]
    · simp [same, agreement.tracked id]
  · simp only [next, UInt32.toNat_add, List.length_append, List.length_singleton, number]
    rfl
  · intro id member
    rcases List.mem_append.mp member with tracked | here
    · exact List.mem_append_left _ (agreement.known id tracked)
    · exact List.mem_append_right _ here
  · intro id member
    rw [List.length_append, List.length_singleton]
    rcases List.mem_append.mp member with earlier | here
    · exact Nat.le_succ_of_le (agreement.low id earlier)
    · rw [List.mem_singleton.mp here, number]
  · exact agreement.distinct.append (List.nodup_singleton _) (by simpa using fresh)

theorem Move.opened_eq {host next : CryptoWorkerHost} {session : Option UInt32}
    (move : Move host session next) : next.opened = host.opened ++ session.toList := by
  cases move with
  | stays => simp
  | opens opens => rfl
  | closes => simp [CryptoWorkerHost.closeAll]

theorem Move.agreement {host next : CryptoWorkerHost} {session : Option UInt32}
    (move : Move host session next) (few : next.opened.length < 2 ^ 32) (agreement : Agreement host) :
    Agreement next := by
  rw [move.opened_eq] at few
  cases move with
  | stays => exact agreement
  | closes => exact agreement.closeAll
  | opens opens => exact agreement.open (by simpa using few) opens

section Runs

variable {cbor : Minicbor} (conforms : cbor.Conforms) {aead : Aead} {argon2 : Argon2}

include conforms

theorem step_move {host next : CryptoWorkerHost} {event : CryptoWorkerHost.Event}
    (stepped : CryptoWorkerHost.step cbor aead argon2 host event = some next) :
    ∃ session, Move host session next := by
  cases event with
  | message message random nonce =>
    obtain rfl := Option.some.inj stepped
    exact ⟨_, handle_move conforms random nonce message⟩
  | close =>
    obtain rfl := Option.some.inj stepped
    exact ⟨none, .closes⟩

-- The openings before a state are among those of it.
theorem run_agreement {events : List CryptoWorkerHost.Event} {host : CryptoWorkerHost}
    (ran : run (CryptoWorkerHost.step cbor aead argon2) .new events = some host)
    (few : host.opened.length < 2 ^ 32) : Agreement host := by
  have always : Always (CryptoWorkerHost.step cbor aead argon2)
      (fun host => host.opened.length < 2 ^ 32 → Agreement host) .new events := by
    refine always_of_preserved ?_ (fun _ carried => carried) (fun _ => agreement_new)
    intro host event next before stepped few
    obtain ⟨session, move⟩ := step_move conforms stepped
    have longer := congrArg List.length move.opened_eq
    rw [List.length_append] at longer
    exact move.agreement few (before (by omega))
  exact always.at_end ran few

end Runs

theorem has_eq_false {host : CryptoWorkerHost} (agreement : Agreement host) {session : Int}
    (dead : ∀ id : UInt32, (id.toNat : Int) = session → host.wasm.sessions id = none) :
    host.has session = false := by
  simp only [CryptoWorkerHost.has, List.any_eq_false, beq_iff_eq]
  intro id tracked same
  exact (agreement.tracked id).mp tracked (dead id same)

/-- Over fewer than 2^32 openings: the tracked ids are the live sessions, an id handed out is a new one,
a seal or open under an id with no live session is answered without the core, and a lock or the end of
the worker leaves no session. -/
theorem worker_sessions_are_capabilities (cbor : Minicbor) (conforms : cbor.Conforms) (aead : Aead)
    (argon2 : Argon2) (events : List CryptoWorkerHost.Event) (host : CryptoWorkerHost)
    (ran : run (CryptoWorkerHost.step cbor aead argon2) .new events = some host)
    (few : host.opened.length < 2 ^ 32) :
    (∀ id, id ∈ host.sessions ↔ host.wasm.sessions id ≠ none) ∧
    host.opened.Nodup ∧
    (∀ random nonce message next response,
      host.handle cbor aead argon2 random nonce message = (response, next) →
      next.opened = host.opened ++ response.opens.toList ∧
        ∀ session, response.opens = some session → host.opened.length + 1 < 2 ^ 32 →
          session ∉ host.opened) ∧
    (∀ random nonce id session accountId vaultId itemId keyVersion text,
      (∀ live : UInt32, (live.toNat : Int) = session → host.wasm.sessions live = none) →
      contextOk session keyVersion = true →
      (text.length ≤ maxItemBytes → ∀ wasm,
        { host with wasm }.handle cbor aead argon2 random nonce
            (some (.sealItemPayload id session accountId vaultId itemId keyVersion text))
          = (.failed id "Locked", { host with wasm })) ∧
      (text.length ≤ maxEnvelopeBytes → ∀ wasm,
        { host with wasm }.handle cbor aead argon2 random nonce
            (some (.openItemPayload id session accountId vaultId itemId keyVersion text))
          = (.failed id "Locked", { host with wasm }))) ∧
    (∀ random nonce id,
      (host.handle cbor aead argon2 random nonce (some (.lock id))).1 = .locked id ∧
      ∀ session, (host.handle cbor aead argon2 random nonce (some (.lock id))).2.wasm.sessions session
        = none) ∧
    ∀ session, host.dispose.wasm.sessions session = none := by
  have agreement := run_agreement conforms ran few
  refine ⟨agreement.tracked, agreement.distinct, ?_, ?_, ?_, agreement.live_eq_none⟩
  · intro random nonce message next response handled
    have move := @handle_move cbor conforms aead argon2 host random nonce message
    rw [handled] at move
    refine ⟨move.opened_eq, ?_⟩
    intro session opened room
    simp only [opened] at move
    cases move with
    | opens opens =>
      rw [opens.id]
      exact (agreement.fresh room).2
  · intro random nonce id session accountId vaultId itemId keyVersion text dead ok
    have untracked := has_eq_false agreement dead
    constructor
    · intro short wasm
      have request : isRequest (.sealItemPayload id session accountId vaultId itemId keyVersion text)
          = true := by simp [isRequest, ok, short]
      have same : ({ host with wasm } : CryptoWorkerHost).has session = false := untracked
      simp only [CryptoWorkerHost.handle, request, if_true, CryptoWorkerHost.answer, same]
      rfl
    · intro short wasm
      have request : isRequest (.openItemPayload id session accountId vaultId itemId keyVersion text)
          = true := by simp [isRequest, ok, short]
      have same : ({ host with wasm } : CryptoWorkerHost).has session = false := untracked
      simp only [CryptoWorkerHost.handle, request, if_true, CryptoWorkerHost.answer, same]
      rfl
  · intro random nonce id
    exact ⟨rfl, agreement.live_eq_none⟩

def setupRandom : SetupRandom where
  salt := List.replicate saltLen 7
  account := ⟨keyOf 1⟩
  vault := ⟨keyOf 2⟩
  item := ⟨keyOf 3⟩
  recoveryKey := sevens
  accountNonce := itemNonce
  vaultNonce := itemNonce
  itemNonce := itemNonce
  recoveryNonce := itemNonce

def recoveryRequest : CryptoRequest :=
  .unlockItemSessionWithRecovery "r" sevens.secret.bytes "account_01" "vault_01" "item_01" 1 1 1
    recoveryAccess.wrappedAccountKey recoveryAccess.wrappedVaultKey recoveryAccess.wrappedItemKey

-- a host that has opened a session with the recovery key
def recoveredHost : CryptoWorkerHost :=
  (CryptoWorkerHost.new.handle Minicbor.rfc8949 (recordedCiphers chainSealings) argon2Checks
    setupRandom itemNonce (some recoveryRequest)).2

theorem recoveredHost_opened : recoveredHost.opened.length < 2 ^ 32 := by
  have move := @handle_move Minicbor.rfc8949 Minicbor.rfc8949_conforms (recordedCiphers chainSealings)
    argon2Checks .new setupRandom itemNonce (some recoveryRequest)
  rw [recoveredHost, move.opened_eq, List.length_append]
  cases (CryptoWorkerHost.new.handle Minicbor.rfc8949 (recordedCiphers chainSealings) argon2Checks
    setupRandom itemNonce (some recoveryRequest)).1.opens <;> simp [CryptoWorkerHost.new]

theorem recoveredHost_sessions : recoveredHost.sessions = [1] := by
  decide +kernel

theorem worker_sessions_are_capabilities_recovered :
    recoveredHost.sessions = [1] ∧ recoveredHost.wasm.sessions 1 ≠ none ∧
      (∀ id, id ∈ recoveredHost.sessions ↔ recoveredHost.wasm.sessions id ≠ none) ∧
      ∀ session, recoveredHost.dispose.wasm.sessions session = none := by
  have capabilities := worker_sessions_are_capabilities Minicbor.rfc8949 Minicbor.rfc8949_conforms
    (recordedCiphers chainSealings) argon2Checks
    [.message (some recoveryRequest) setupRandom itemNonce] recoveredHost rfl recoveredHost_opened
  have live := (capabilities.1 1).mp (by rw [recoveredHost_sessions]; exact List.mem_singleton_self 1)
  exact ⟨recoveredHost_sessions, live, capabilities.1, capabilities.2.2.2.2.2⟩

end ZenPass.Crypto.Worker
