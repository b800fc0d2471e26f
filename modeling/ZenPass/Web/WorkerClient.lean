import ZenPass.Crypto.WorkerSessions
import ZenPass.Lib.Rpc

set_option autoImplicit false

-- `CryptoWorkerClient` gives every request an id of its own and waits for the response with that
-- id. The messages of a `Worker` arrive in the order in which they were posted.

namespace ZenPass.Web

open Cbor (Bytes)
open Crypto Crypto.Worker Transition

inductive ClientCall where
  | createAccountSetup (password : Bytes) (reportedPhysicalMemoryKiB : Int)
    (accountId vaultId itemId : String)
  | unlockItemSession (password kdfParametersCbor : Bytes) (reportedPhysicalMemoryKiB : Int)
    (accountId vaultId itemId : String) (accountKeyVersion vaultKeyVersion itemKeyVersion : Int)
    (wrappedAccountKey wrappedVaultKey wrappedItemKey : Bytes)
  | unlockItemSessionWithRecovery (recoveryKey : Bytes) (accountId vaultId itemId : String)
    (accountKeyVersion vaultKeyVersion itemKeyVersion : Int)
    (wrappedAccountKey wrappedVaultKey wrappedItemKey : Bytes)
  | sealItemPayload (session : Int) (accountId vaultId itemId : String) (keyVersion : Int)
    (plaintext : Bytes)
  | openItemPayload (session : Int) (accountId vaultId itemId : String) (keyVersion : Int)
    (envelope : Bytes)
  | lock

def ClientCall.request (id : String) : ClientCall → CryptoRequest
  | .createAccountSetup password reported accountId vaultId itemId =>
      .createAccountSetup id password reported accountId vaultId itemId
  | .unlockItemSession password kdfParametersCbor reported accountId vaultId itemId accountKeyVersion
      vaultKeyVersion itemKeyVersion wrappedAccountKey wrappedVaultKey wrappedItemKey =>
      .unlockItemSession id password kdfParametersCbor reported accountId vaultId itemId
        accountKeyVersion vaultKeyVersion itemKeyVersion wrappedAccountKey wrappedVaultKey
        wrappedItemKey
  | .unlockItemSessionWithRecovery recoveryKey accountId vaultId itemId accountKeyVersion
      vaultKeyVersion itemKeyVersion wrappedAccountKey wrappedVaultKey wrappedItemKey =>
      .unlockItemSessionWithRecovery id recoveryKey accountId vaultId itemId accountKeyVersion
        vaultKeyVersion itemKeyVersion wrappedAccountKey wrappedVaultKey wrappedItemKey
  | .sealItemPayload session accountId vaultId itemId keyVersion plaintext =>
      .sealItemPayload id session accountId vaultId itemId keyVersion plaintext
  | .openItemPayload session accountId vaultId itemId keyVersion envelope =>
      .openItemPayload id session accountId vaultId itemId keyVersion envelope
  | .lock => .lock id

def responseId : CryptoResponse → String
  | .session id _ | .bytes id _ | .metadata id _ | .locked id | .accountSetup id _ | .failed id _ => id

inductive ClientError where
  | cryptoError (code : String)
  | unexpectedResponseType

inductive ClientResult where
  | accountSetup (result : AccountSetupResult)
  | session (session : UInt32)
  | bytes (bytes : Bytes)
  | void

def ClientCall.resolve (call : ClientCall) (response : CryptoResponse) :
    Except ClientError ClientResult :=
  match response with
  | .failed _ error => .error (.cryptoError error)
  | response =>
      match call, response with
      | .createAccountSetup .., .accountSetup _ result => .ok (.accountSetup result)
      | .unlockItemSession .., .session _ session
      | .unlockItemSessionWithRecovery .., .session _ session => .ok (.session session)
      | .sealItemPayload .., .bytes _ bytes | .openItemPayload .., .bytes _ bytes => .ok (.bytes bytes)
      | .lock, _ => .ok .void
      | _, _ => .error .unexpectedResponseType

/-- `this.nextId += 1`: a number that has reached 2^53 stays there. -/
def increment (nextId : Nat) : Nat := if nextId < 2 ^ 53 then nextId + 1 else nextId

def nextId : Nat → Nat
  | 0 => 1
  | calls + 1 => increment (nextId calls)

variable (cbor : Minicbor) (aead : Aead) (argon2 : Argon2)

/-- The calls of a client to the host in its worker. The copies that `copyResponse` makes and the
buffers that the host fills with zeros after use leave the values of the messages as they are. -/
def cryptoWorker : Rpc.Protocol String ClientCall CryptoRequest CryptoResponse CryptoWorkerHost
    (SetupRandom × Nonce) where
  callId calls := toString (nextId calls)
  request id call := call.request id
  handle host drawn request := host.handle cbor aead argon2 drawn.1 drawn.2 (some request)
  replyTo := responseId

section

variable {cbor aead argon2}

theorem nextId_eq {calls : Nat} (few : calls < 2 ^ 53) : nextId calls = calls + 1 := by
  induction calls with
  | zero => rfl
  | succ calls ih =>
      have before := ih (by omega)
      rw [nextId, before, increment, if_pos few]

theorem toString_injective {m n : Nat} (same : toString m = toString n) : m = n := by
  have digits : Nat.toDigits 10 m = Nat.toDigits 10 n := by
    rw [← Nat.toList_repr, ← Nat.toList_repr]
    exact congrArg String.toList same
  rw [← @Nat.ofDigitChars_ten_toDigits m, digits, Nat.ofDigitChars_ten_toDigits]

theorem toString_ne_empty (n : Nat) : toString n ≠ "" := by
  intro same
  have digits : Nat.toDigits 10 n = [] := by
    rw [← Nat.toList_repr]
    exact congrArg String.toList same
  exact Nat.toDigits_ne_nil digits

theorem responseId_opening (host : CryptoWorkerHost) (id : String)
    (opened : Except String UInt32 × WasmCrypto) : responseId (host.opening id opened).1 = id := by
  obtain ⟨result, wasm⟩ := opened
  cases result <;> rfl

theorem responseId_answerBytes (id : String) (result : Except String Bytes) :
    responseId (CryptoWorkerHost.answerBytes id result) = id := by
  cases result <;> rfl

theorem responseId_answer (host : CryptoWorkerHost) (random : SetupRandom) (nonce : Nonce)
    (id : String) (call : ClientCall) :
    responseId (host.answer cbor aead argon2 random nonce (call.request id)).1 = id := by
  cases call with
  | createAccountSetup =>
      simp only [ClientCall.request, CryptoWorkerHost.answer]
      split <;> rfl
  | unlockItemSession | unlockItemSessionWithRecovery => exact responseId_opening _ _ _
  | sealItemPayload | openItemPayload =>
      simp only [ClientCall.request, CryptoWorkerHost.answer]
      split
      · exact responseId_answerBytes _ _
      · rfl
  | lock => rfl

theorem responseId_handle (host : CryptoWorkerHost) (drawn : SetupRandom × Nonce) (id : String)
    (call : ClientCall) :
    responseId ((cryptoWorker cbor aead argon2).handle host drawn (call.request id)).1 =
      if isRequest (call.request id) then id else "" := by
  simp only [cryptoWorker, CryptoWorkerHost.handle]
  split
  · exact responseId_answer _ _ _ _ _
  · rfl

theorem callId_eq {calls : Nat} (few : calls < 2 ^ 53) :
    (cryptoWorker cbor aead argon2).callId calls = toString (calls + 1) :=
  congrArg toString (nextId_eq few)

theorem cryptoWorker_correct : (cryptoWorker cbor aead argon2).Correct (2 ^ 53) where
  distinct m n fewM fewN same := by
    rw [callId_eq fewM, callId_eq fewN] at same
    exact Nat.succ.inj (toString_injective same)
  own host drawn n call m fewM fewN names := by
    have answered := @responseId_handle cbor aead argon2 host drawn
      ((cryptoWorker cbor aead argon2).callId n) call
    rw [callId_eq fewM, callId_eq fewN] at names
    rw [callId_eq fewN] at answered
    have same := names.symm.trans answered
    split at same
    · exact Nat.succ.inj (toString_injective same)
    · exact absurd same (toString_ne_empty _)

theorem resolve_opening (host : CryptoWorkerHost) (id : String)
    (opened : Except String UInt32 × WasmCrypto) {call : ClientCall}
    (session : ∀ session, call.resolve (.session id session) = .ok (.session session)) :
    call.resolve (host.opening id opened).1 ≠ .error .unexpectedResponseType := by
  obtain ⟨result, wasm⟩ := opened
  cases result with
  | error thrown => rintro ⟨⟩
  | ok opened =>
      intro unexpected
      have resolved := (session opened).symm.trans unexpected
      cases resolved

theorem resolve_answerBytes (id : String) (result : Except String Bytes) {call : ClientCall}
    (bytes : ∀ bytes, call.resolve (.bytes id bytes) = .ok (.bytes bytes)) :
    call.resolve (CryptoWorkerHost.answerBytes id result) ≠ .error .unexpectedResponseType := by
  cases result with
  | error thrown => rintro ⟨⟩
  | ok value =>
      intro unexpected
      have resolved := (bytes value).symm.trans unexpected
      cases resolved

theorem resolve_answer (host : CryptoWorkerHost) (random : SetupRandom) (nonce : Nonce) (id : String)
    (call : ClientCall) :
    call.resolve (host.answer cbor aead argon2 random nonce (call.request id)).1 ≠
      .error .unexpectedResponseType := by
  cases call with
  | createAccountSetup =>
      simp only [ClientCall.request, CryptoWorkerHost.answer]
      split <;> rintro ⟨⟩
  | unlockItemSession | unlockItemSessionWithRecovery =>
      exact resolve_opening _ _ _ fun _ => rfl
  | sealItemPayload | openItemPayload =>
      simp only [ClientCall.request, CryptoWorkerHost.answer]
      split
      · exact resolve_answerBytes _ _ fun _ => rfl
      · rintro ⟨⟩
  | lock => rintro ⟨⟩

theorem resolve_handle (host : CryptoWorkerHost) (drawn : SetupRandom × Nonce) {id : String}
    (named : id ≠ "") (call : ClientCall)
    (addressed : responseId
      ((cryptoWorker cbor aead argon2).handle host drawn (call.request id)).1 = id) :
    isRequest (call.request id) = true ∧
      call.resolve ((cryptoWorker cbor aead argon2).handle host drawn (call.request id)).1 ≠
        .error .unexpectedResponseType := by
  rw [responseId_handle] at addressed
  split at addressed
  · rename_i request
    refine ⟨request, ?_⟩
    simp only [cryptoWorker, CryptoWorkerHost.handle, request, if_true]
    exact resolve_answer _ _ _ _ _
  · exact absurd addressed.symm named

/-- No call ends twice. One that ends by a response ends by the host's own response to it, as if
the calls had been made one after the other, and can use it. Without an error or a termination, the
calls still open when nothing is under way are those that the host does not take for requests. -/
theorem worker_calls_settle (actions : List (Rpc.Action ClientCall (SetupRandom × Nonce)))
    (link : Rpc.Link String ClientCall CryptoRequest CryptoResponse CryptoWorkerHost)
    (ran : run (Rpc.step (cryptoWorker cbor aead argon2)) (.initial .new) actions = some link)
    (few : link.calls.length ≤ 2 ^ 53) :
    let responses := (Rpc.serveAll (cryptoWorker cbor aead argon2) .new 0 link.calls
      (actions.filterMap Rpc.Action.drawn)).1
    (link.settled.map Prod.fst).Nodup ∧
    (∀ id outcome, (id, outcome) ∈ link.settled → ∃ n call, link.calls[n]? = some call ∧
      id = toString (n + 1) ∧ ∀ response, outcome = .reply response →
        responses[n]? = some response ∧ responseId response = id ∧
          isRequest (call.request id) = true ∧
          call.resolve response ≠ .error .unexpectedResponseType) ∧
    ((∀ action ∈ actions, action.rejects = false) → link.requests = [] → link.replies = [] →
      ∀ n call, link.calls[n]? = some call →
        (link.pending.get (toString (n + 1)) = none ↔
          isRequest (call.request (toString (n + 1))) = true)) := by
  obtain ⟨received, linked⟩ := Rpc.linked_run cryptoWorker_correct Rpc.linked_initial few ran
  rw [List.nil_append] at linked
  refine ⟨linked.once, ?_, ?_⟩
  · intro id outcome member
    obtain ⟨n, less, named, replied⟩ := linked.settled id outcome member
    rw [callId_eq (less.trans_le few)] at named
    refine ⟨n, link.calls[n], List.getElem?_eq_getElem less, named, ?_⟩
    intro response came
    obtain ⟨served, addressed⟩ := replied response came
    obtain ⟨call, drawn, there, -, is⟩ := Rpc.serveAll_reply served
    rw [List.getElem?_eq_getElem less, Option.some.injEq] at there
    rw [there, named]
    rw [Nat.zero_add, callId_eq (less.trans_le few)] at is
    rw [named, is] at addressed
    refine ⟨served, by rw [is]; exact addressed, ?_⟩
    rw [is]
    exact resolve_handle _ _ (toString_ne_empty _) call addressed
  · intro quiet requests replies n call there
    obtain ⟨less, -⟩ := List.getElem?_eq_some_iff.mp there
    have replied := Rpc.rejected_run ran (by rintro _ _ ⟨⟩) quiet
    obtain ⟨response, served, settled⟩ := linked.quiescent cryptoWorker_correct few requests replies
      (Rpc.running_run ran rfl quiet) replied less
    obtain ⟨call', drawn, there', -, is⟩ := Rpc.serveAll_reply served
    rw [there, Option.some.injEq] at there'
    rw [callId_eq (less.trans_le few)] at settled
    rw [Nat.zero_add, callId_eq (less.trans_le few), ← there'] at is
    have addressed : responseId response =
        if isRequest (call.request (toString (n + 1))) then toString (n + 1) else "" := by
      rw [is]
      exact responseId_handle _ _ _ _
    rw [settled]
    change responseId response = _ ↔ _
    rw [addressed]
    split
    · rename_i request
      exact ⟨fun _ => request, fun _ => rfl⟩
    · rename_i other
      exact ⟨fun same => absurd same.symm (toString_ne_empty _), fun request => absurd request other⟩

end

def responses (calls : List ClientCall) (draws : List (SetupRandom × Nonce)) : List CryptoResponse :=
  (Rpc.serveAll (cryptoWorker cbor aead argon2) .new 0 calls draws).1

def hostBefore (calls : List ClientCall) (draws : List (SetupRandom × Nonce)) (k : Nat) :
    CryptoWorkerHost :=
  (Rpc.serveAll (cryptoWorker cbor aead argon2) .new 0 calls (draws.take k)).2

section Locks

variable {cbor aead argon2}
variable (conforms : cbor.Conforms) {calls : List ClientCall} {draws : List (SetupRandom × Nonce)}
  {response : CryptoResponse} {j k n : Nat}

theorem response_handle (served : (responses cbor aead argon2 calls draws)[k]? = some response) :
    ∃ call drawn, calls[k]? = some call ∧ draws[k]? = some drawn ∧
      response = ((cryptoWorker cbor aead argon2).handle (hostBefore cbor aead argon2 calls draws k)
        drawn (call.request (toString (nextId k)))).1 ∧
      hostBefore cbor aead argon2 calls draws (k + 1) =
        ((cryptoWorker cbor aead argon2).handle (hostBefore cbor aead argon2 calls draws k)
          drawn (call.request (toString (nextId k)))).2 := by
  obtain ⟨call, drawn, called, drew, is⟩ := Rpc.serveAll_reply served
  have next := @Rpc.serveAll_take_succ _ _ _ _ _ _ (cryptoWorker cbor aead argon2) calls draws
    CryptoWorkerHost.new 0 k drawn drew call called
  rw [Nat.zero_add] at is next
  exact ⟨call, drawn, called, drew, is, next⟩

include conforms

theorem hostBefore_move (served : (responses cbor aead argon2 calls draws)[k]? = some response) :
    Move (hostBefore cbor aead argon2 calls draws k) response.opens
      (hostBefore cbor aead argon2 calls draws (k + 1)) := by
  obtain ⟨call, drawn, -, -, is, next⟩ := response_handle served
  rw [is, next]
  exact handle_move conforms drawn.1 drawn.2 _

theorem hostBefore_opened (before : k ≤ n)
    (reached : n ≤ (responses cbor aead argon2 calls draws).length) :
    (hostBefore cbor aead argon2 calls draws k).opened <+:
      (hostBefore cbor aead argon2 calls draws n).opened := by
  induction n, before using Nat.le_induction with
  | base => exact List.prefix_refl _
  | succ n before ih =>
      have move := hostBefore_move conforms (List.getElem?_eq_getElem (Nat.lt_of_succ_le reached))
      rw [move.opened_eq]
      exact (ih (Nat.le_of_succ_le reached)).trans (List.prefix_append _ _)

theorem hostBefore_agreement (reached : n ≤ (responses cbor aead argon2 calls draws).length)
    (few : (hostBefore cbor aead argon2 calls draws n).opened.length < 2 ^ 32) :
    Agreement (hostBefore cbor aead argon2 calls draws n) := by
  induction n with
  | zero =>
      have start : hostBefore cbor aead argon2 calls draws 0 = .new := by
        cases calls <;> rfl
      rw [start]
      exact agreement_new
  | succ n ih =>
      have earlier := (hostBefore_opened conforms (Nat.le_add_right n 1) reached).length_le
      have move := hostBefore_move conforms (List.getElem?_eq_getElem (Nat.lt_of_succ_le reached))
      exact move.agreement few (ih (Nat.le_of_succ_le reached) (by omega))

theorem untracked_after_lock (called : calls[n]? = some .lock) (later : n + 1 ≤ j)
    (reached : j ≤ (responses cbor aead argon2 calls draws).length)
    (few : (hostBefore cbor aead argon2 calls draws j).opened.length < 2 ^ 32) {session : UInt32}
    (opened : session ∈ (hostBefore cbor aead argon2 calls draws (n + 1)).opened) :
    session ∉ (hostBefore cbor aead argon2 calls draws j).sessions := by
  induction j, later using Nat.le_induction with
  | base =>
      obtain ⟨call, drawn, called', -, -, next⟩ :=
        response_handle (List.getElem?_eq_getElem (Nat.lt_of_succ_le reached))
      rw [called, Option.some.injEq] at called'
      rw [next, ← called']
      exact List.not_mem_nil
  | succ j later ih =>
      have before := Nat.le_of_succ_le reached
      have more := (hostBefore_opened conforms (Nat.le_add_right j 1) reached).length_le
      have move := hostBefore_move conforms (List.getElem?_eq_getElem (Nat.lt_of_succ_le reached))
      have untracked := ih before (by omega)
      have agreement := hostBefore_agreement conforms before (by omega)
      have known := (hostBefore_opened conforms later before).subset opened
      have counted := move.opened_eq
      generalize hostBefore cbor aead argon2 calls draws (j + 1) = next at move counted few more ⊢
      generalize CryptoResponse.opens _ = handedOut at move counted
      cases move with
      | stays => exact untracked
      | closes => exact List.not_mem_nil
      | opens opens =>
          rw [counted, List.length_append] at few
          have fresh := (agreement.fresh few).2
          rw [← opens.id] at fresh
          unfold CryptoWorkerHost.addSession
          intro member
          dsimp only at member
          split at member
          · exact untracked member
          · rcases List.mem_append.mp member with old | new
            · exact untracked old
            · exact fresh (List.mem_singleton.mp new ▸ known)

end Locks

def ClientCall.session : ClientCall → Option Int
  | .sealItemPayload session .. | .openItemPayload session .. => some session
  | _ => none

section

variable {cbor aead argon2}

theorem has_of_untracked {host : CryptoWorkerHost} {session : UInt32}
    (untracked : session ∉ host.sessions) : host.has (session.toNat : Int) = false := by
  simp only [CryptoWorkerHost.has, List.any_eq_false, beq_iff_eq]
  intro id tracked same
  exact untracked (UInt32.toNat_inj.mp (Int.ofNat_inj.mp same) ▸ tracked)

theorem handle_untracked (host : CryptoWorkerHost) (drawn : SetupRandom × Nonce) {id : String}
    {call : ClientCall} {session : UInt32} (names : call.session = some (session.toNat : Int))
    (untracked : session ∉ host.sessions) (request : isRequest (call.request id) = true) :
    ((cryptoWorker cbor aead argon2).handle host drawn (call.request id)).1 =
      .failed id "Locked" := by
  have has := has_of_untracked untracked
  simp only [cryptoWorker, CryptoWorkerHost.handle, request, if_true]
  cases call with
  | sealItemPayload | openItemPayload =>
      cases names
      simp only [ClientCall.request, CryptoWorkerHost.answer, has]
      rfl
  | _ => cases names

/-- A session that a call before a `lock` call has opened is of no use to a call after it, while
the worker has handed out fewer than 2^32 sessions. -/
theorem lock_ends_sessions (conforms : cbor.Conforms)
    (actions : List (Rpc.Action ClientCall (SetupRandom × Nonce)))
    (link : Rpc.Link String ClientCall CryptoRequest CryptoResponse CryptoWorkerHost)
    (ran : run (Rpc.step (cryptoWorker cbor aead argon2)) (.initial .new) actions = some link)
    (few : link.calls.length ≤ 2 ^ 53) (room : link.server.opened.length < 2 ^ 32) {k n m : Nat}
    (between : k < n ∧ n < m) (locked : link.calls[n]? = some .lock) {earlier : CryptoResponse}
    (opened : (toString (k + 1), .reply earlier) ∈ link.settled) {session : UInt32}
    (opens : earlier.opens = some session) {call : ClientCall} (called : link.calls[m]? = some call)
    (names : call.session = some (session.toNat : Int)) {response : CryptoResponse}
    (answered : (toString (m + 1), .reply response) ∈ link.settled) :
    response = .failed (toString (m + 1)) "Locked" := by
  obtain ⟨received, linked⟩ := Rpc.linked_run cryptoWorker_correct Rpc.linked_initial few ran
  rw [List.nil_append] at linked
  obtain ⟨-, settled, -⟩ := worker_calls_settle actions link ran few
  generalize actions.filterMap Rpc.Action.drawn = draws at linked settled
  obtain ⟨k', _, -, sameK, replied⟩ := settled _ _ opened
  obtain rfl : k = k' := Nat.succ.inj (toString_injective sameK)
  obtain ⟨servedK, -⟩ := replied earlier rfl
  obtain ⟨m', _, called', sameM, replied⟩ := settled _ _ answered
  obtain rfl : m = m' := Nat.succ.inj (toString_injective sameM)
  rw [called, Option.some.injEq] at called'
  subst called'
  obtain ⟨servedM, -, request, -⟩ := replied response rfl
  have less : m < (responses cbor aead argon2 link.calls draws).length :=
    (List.getElem?_eq_some_iff.mp servedM).1
  have last : link.server = hostBefore cbor aead argon2 link.calls draws
      (responses cbor aead argon2 link.calls draws).length := by
    have length : (responses cbor aead argon2 link.calls draws).length = draws.length :=
      Rpc.serveAll_length linked.long
    rw [length, hostBefore, List.take_length]
    exact linked.server
  have fewer : (hostBefore cbor aead argon2 link.calls draws m).opened.length < 2 ^ 32 := by
    have listed := (hostBefore_opened conforms less.le (Nat.le_refl _)).length_le
    rw [← last] at listed
    omega
  have handedOut : session ∈ (hostBefore cbor aead argon2 link.calls draws (n + 1)).opened := by
    have move := hostBefore_move conforms servedK
    apply (hostBefore_opened conforms (Nat.add_le_add_right between.1.le 1)
      (le_trans between.2 less.le)).subset
    rw [move.opened_eq, opens]
    exact List.mem_append_right _ (List.mem_singleton.mpr rfl)
  have untracked := untracked_after_lock conforms locked between.2 less.le fewer handedOut
  obtain ⟨call', drawn, there, -, is, -⟩ := response_handle servedM
  rw [called, Option.some.injEq] at there
  subst there
  have few' : m < 2 ^ 53 := by
    obtain ⟨within, -⟩ := List.getElem?_eq_some_iff.mp called
    omega
  rw [nextId_eq few'] at is
  rw [is]
  exact handle_untracked _ _ names untracked request

end

section Samples

def recoverCall : ClientCall :=
  .unlockItemSessionWithRecovery sevens.secret.bytes "account_01" "vault_01" "item_01" 1 1 1
    recoveryAccess.wrappedAccountKey recoveryAccess.wrappedVaultKey recoveryAccess.wrappedItemKey

def openUnder (keyVersion : Int) : ClientCall :=
  .openItemPayload 1 "account_01" "vault_01" "item_01" keyVersion []

def staleCalls : List (Rpc.Action ClientCall (SetupRandom × Nonce)) :=
  [.call recoverCall, .call .lock, .call (openUnder 1), .call (openUnder 0)]

def staleReplies : List (Rpc.Action ClientCall (SetupRandom × Nonce)) :=
  List.replicate 3 (.serve (setupRandom, itemNonce)) ++ List.replicate 4 .receive

def recordedWorker : Rpc.Protocol String ClientCall CryptoRequest CryptoResponse CryptoWorkerHost
    (SetupRandom × Nonce) :=
  cryptoWorker Minicbor.rfc8949 (recordedCiphers chainSealings) argon2Checks

def recovered : CryptoWorkerHost :=
  { CryptoWorkerHost.new with
    wasm :=
      { nextSession := 2
        sessions := Function.update WasmCrypto.new.sessions 1 (some ⟨keyOf 3⟩) } }.addSession 1

theorem recoverCall_handle :
    recordedWorker.handle .new (setupRandom, itemNonce) (recoverCall.request "1") =
      (.session "1" 1, recovered) := by
  have opened : openWithRecovery Minicbor.rfc8949 (recordedCiphers chainSealings)
      sevens.secret.bytes recoveryAccess = .ok ⟨keyOf 3⟩ :=
    (openWithRecovery_iff Minicbor.rfc8949_conforms chainSealings_idealBox
      recoveryAccess_slices).mpr ⟨sevens, ⟨keyOf 1⟩, ⟨keyOf 2⟩, rfl, recoveryAccess_chain⟩
  have request : isRequest (recoverCall.request "1") = true := by decide +kernel
  have core := WasmCrypto.unlockItemSessionWithRecovery_eq Minicbor.rfc8949
    (recordedCiphers chainSealings) .new sevens.secret.bytes recoveryAccess
  rw [opened] at core
  simp only [recordedWorker, cryptoWorker, CryptoWorkerHost.handle, request, if_true]
  simp only [recoverCall, ClientCall.request, CryptoWorkerHost.answer]
  have versions : asU64 1 = 1 := rfl
  rw [versions]
  exact congrArg (CryptoWorkerHost.new.opening "1") core

def recoveredLink : Rpc.Link String ClientCall CryptoRequest CryptoResponse CryptoWorkerHost where
  calls := [recoverCall, .lock, openUnder 1, openUnder 0]
  pending := (((KeyedStore.InsertionMap.empty.set "1" recoverCall).set "2" .lock).set "3"
    (openUnder 1)).set "4" (openUnder 0)
  requests := [.lock "2", (openUnder 1).request "3", (openUnder 0).request "4"]
  server := recovered
  replies := [.session "1" 1]
  terminated := false
  settled := []

def calledLink : Rpc.Link String ClientCall CryptoRequest CryptoResponse CryptoWorkerHost :=
  { recoveredLink with
    requests := recoverCall.request "1" :: recoveredLink.requests
    server := .new
    replies := [] }

theorem calledLink_serve :
    Rpc.step recordedWorker calledLink (.serve (setupRandom, itemNonce)) = some recoveredLink :=
  Rpc.step_serve recordedWorker rfl recoverCall_handle

theorem staleCalls_run :
    run (Rpc.step recordedWorker) (.initial .new)
      (staleCalls ++ .serve (setupRandom, itemNonce) :: staleReplies) =
        run (Rpc.step recordedWorker) recoveredLink staleReplies := by
  have called : run (Rpc.step recordedWorker) (.initial .new) staleCalls = some calledLink := rfl
  rw [run_append, called, Option.bind_some, run_cons, calledLink_serve, Option.bind_some]

theorem staleReplies_run :
    ∃ link, run (Rpc.step recordedWorker) recoveredLink staleReplies = some link ∧
      link.calls = recoveredLink.calls ∧ link.requests = [] ∧ link.replies = [] ∧
      link.server.opened = [1] ∧
      link.settled = [("1", .reply (.session "1" 1)), ("2", .reply (.locked "2")),
        ("3", .reply (.failed "3" "Locked"))] :=
  ⟨_, rfl, rfl, rfl, rfl, rfl, rfl⟩

/-- The call without a key version is the one that stays open. -/
theorem worker_calls_settle_stale :
    ∃ link, run (Rpc.step recordedWorker) (.initial .new)
        (staleCalls ++ .serve (setupRandom, itemNonce) :: staleReplies) = some link ∧
      (link.settled.map Prod.fst).Nodup ∧ link.pending.get "3" = none ∧
      link.pending.get "4" ≠ none := by
  obtain ⟨link, ran, calls, requests, replies, -⟩ := staleReplies_run
  rw [← staleCalls_run] at ran
  have few : link.calls.length ≤ 2 ^ 53 := by
    rw [calls]
    decide
  obtain ⟨once, -, open_⟩ := worker_calls_settle _ link ran few
  have quiet := open_ (by decide) requests replies
  refine ⟨link, ran, once, ?_, fun closed => ?_⟩
  · exact (quiet 2 (openUnder 1) (by rw [calls]; rfl)).mpr (by decide)
  · exact absurd ((quiet 3 (openUnder 0) (by rw [calls]; rfl)).mp closed) (by decide)

theorem lock_ends_sessions_stale :
    ∃ link, run (Rpc.step recordedWorker) (.initial .new)
        (staleCalls ++ .serve (setupRandom, itemNonce) :: staleReplies) = some link ∧
      ∀ response, (toString 3, .reply response) ∈ link.settled →
        response = .failed (toString 3) "Locked" := by
  obtain ⟨link, ran, calls, -, -, opened, settled⟩ := staleReplies_run
  rw [← staleCalls_run] at ran
  refine ⟨link, ran, fun response answered => ?_⟩
  exact lock_ends_sessions Minicbor.rfc8949_conforms _ link ran (by rw [calls]; decide)
    (by rw [opened]; decide) (k := 0) (n := 1) (m := 2) (by decide) (by rw [calls]; rfl)
    (by rw [settled]; exact List.mem_cons_self) rfl (by rw [calls]; rfl) rfl answered

end Samples

end ZenPass.Web
