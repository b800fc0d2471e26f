import ZenPass.Lib.ReadCommitted
import ZenPass.Lib.Transition
import ZenPass.Sync.Mutation

set_option autoImplicit false

-- A request runs the statements of `applyMutation` one at a time; the statements of open
-- transactions interleave in any order. A statement that has to wait is not enabled.

namespace ZenPass.Sync

open Wire ReadCommitted

abbrev TxId := Nat

inductive Phase where
  | findReplay
  | acquireMutationLock
  | findMutationOutcome
  | insertVault
  | selectVault
  | getItemForUpdate
  | nextval
  | upsertItem (proposed : Nat)
  | recordMutationOutcome (statusCode : Nat) (body : ResponseBody)
  | finish (outcome : ApplyOutcome)
deriving DecidableEq, Repr

/-- A request to `POST /vaults/{vaultId}/items` past its checks, with the rows that its
transaction has locked or written. -/
structure Tx where
  backend : Backend
  accountId : Id
  mutation : Mutation
  ciphertext : Bytes
  now : Timestamp
  phase : Phase
  vault : Option Id := none
  item : Option ItemRow := none
  recorded : Option MutationOutcome := none
deriving DecidableEq, Repr

def Tx.vaultKey (tx : Tx) : Id := tx.mutation.vaultId

def Tx.itemKey (tx : Tx) : Id × Id := (tx.mutation.vaultId, tx.mutation.itemId)

def Tx.outcomeKey (tx : Tx) : Id × Id := (tx.accountId, tx.mutation.mutationId)

/-- How a request ended; `fresh` tells an outcome recorded by this request from a replay. -/
structure Settled where
  accountId : Id
  mutation : Mutation
  outcome : ApplyOutcome
  fresh : Bool
deriving DecidableEq, Repr

/-- `itemKeys` are the keys of `items` that a row was ever inserted under. -/
structure Server where
  vaults : Table Id TxId Id
  items : Table (Id × Id) TxId ItemRow
  itemKeys : List (Id × Id)
  outcomes : Table (Id × Id) TxId MutationOutcome
  vaultChangeSequence : Nat
  mutationLocks : Int → Option TxId
  txs : TxId → Option Tx
  settled : List Settled

namespace Server

def initial : Server where
  vaults := fun _ => {}
  items := fun _ => {}
  itemKeys := []
  outcomes := fun _ => {}
  vaultChangeSequence := 0
  mutationLocks := fun _ => none
  txs := fun _ => none
  settled := []

def resume (server : Server) (t : TxId) (tx : Tx) : Server :=
  { server with txs := Function.update server.txs t (some tx) }

def releaseLocks (server : Server) (t : TxId) : Server :=
  { server with
    mutationLocks := fun key => if server.mutationLocks key = some t then none
      else server.mutationLocks key
    txs := Function.update server.txs t none }

def settle (server : Server) (tx : Tx) (outcome : ApplyOutcome) : Server :=
  { server with
    settled := server.settled ++ [⟨tx.accountId, tx.mutation, outcome, tx.recorded.isSome⟩] }

def commit (server : Server) (t : TxId) : Server :=
  { server with
    vaults := server.vaults.commit t
    items := server.items.commit t
    outcomes := server.outcomes.commit t }

def rollback (server : Server) (t : TxId) : Server :=
  { server with
    vaults := server.vaults.abort t
    items := server.items.abort t
    outcomes := server.outcomes.abort t }

end Server

/-- Node commits whatever `applyMutation` returns; Rust rolls back its two early exits. -/
def commits : Backend → ApplyOutcome → Bool
  | _, .failed => false
  | _, .response _ _ => true
  | .node, _ => true
  | .rust, _ => false

def compareRevision (tx : Tx) (existing : Option ItemRow) : Tx :=
  let currentRevision := existing.elim 0 ItemRow.revision
  if tx.mutation.baseRevision ≠ currentRevision then
    match existing with
    | none => { tx with phase := .finish .badRequest }
    | some row =>
        let body := .conflict tx.mutation.mutationId (toItemRecord tx.backend row) tx.mutation
        { tx with item := some row, phase := .recordMutationOutcome 409 body }
  else
    { tx with item := existing, phase := .nextval }

def nextRevision (tx : Tx) : Nat := tx.item.elim 0 ItemRow.revision + 1

def insertedRow (tx : Tx) (sequence : Nat) : ItemRow where
  vaultId := tx.mutation.vaultId
  itemId := tx.mutation.itemId
  ciphertext := tx.ciphertext
  envelopeVersion := tx.mutation.envelopeVersion
  revision := nextRevision tx
  deleted := tx.mutation.deleted
  createdAt := tx.now
  updatedAt := tx.now
  sequence := sequence

def updatedRow (tx : Tx) (current : ItemRow) (sequence : Nat) : ItemRow :=
  { current with
    ciphertext := tx.ciphertext
    envelopeVersion := tx.mutation.envelopeVersion
    revision := nextRevision tx
    deleted := tx.mutation.deleted
    updatedAt := tx.now
    sequence := sequence }

def Tx.written (tx : Tx) (row : ItemRow) : Tx :=
  { tx with
    item := some row
    phase := .recordMutationOutcome 201 (.record (toItemRecord tx.backend row)) }

variable (hashtext : String → Int)

def mutationLockKey (tx : Tx) : Int := hashtext (tx.accountId ++ ":" ++ tx.mutation.mutationId)

def statement (server : Server) (t : TxId) (tx : Tx) : Option Server :=
  match tx.phase with
  | .findReplay =>
      -- The fast path reads on the pool, outside any transaction.
      match (server.outcomes tx.outcomeKey).committed with
      | some row =>
          some ((server.settle tx (.response row.statusCode row.responseBody)).releaseLocks t)
      | none => some (server.resume t { tx with phase := .acquireMutationLock })
  | .acquireMutationLock =>
      let key := mutationLockKey hashtext tx
      match server.mutationLocks key with
      | none =>
          some ({ server with mutationLocks := Function.update server.mutationLocks key (some t) }.resume t
            { tx with phase := .findMutationOutcome })
      | some _ => none
  | .findMutationOutcome =>
      match (server.outcomes tx.outcomeKey).view t with
      | some row =>
          some (server.resume t
            { tx with phase := .finish (.response row.statusCode row.responseBody) })
      | none => some (server.resume t { tx with phase := .insertVault })
  | .insertVault =>
      let slot := server.vaults tx.vaultKey
      if slot.committed.isSome then
        some (server.resume t { tx with phase := .selectVault })
      else if slot.available t then
        some ({ server with vaults := server.vaults.hold tx.vaultKey t (some tx.accountId) }.resume t
          { tx with vault := some tx.accountId, phase := .selectVault })
      else none
  | .selectVault =>
      if (server.vaults tx.vaultKey).view t = some tx.accountId then
        some (server.resume t { tx with phase := .getItemForUpdate })
      else
        some (server.resume t { tx with phase := .finish .notFound })
  | .getItemForUpdate =>
      -- A row that only another transaction has inserted is neither seen nor waited for.
      let slot := server.items tx.itemKey
      match slot.committed with
      | none => some (server.resume t (compareRevision tx none))
      | some row =>
          if slot.available t then
            some ({ server with items := server.items.hold tx.itemKey t (some row) }.resume t
              (compareRevision tx (some row)))
          else none
  | .nextval =>
      let sequence := server.vaultChangeSequence + 1
      some ({ server with vaultChangeSequence := sequence }.resume t
        { tx with phase := .upsertItem sequence })
  | .upsertItem proposed =>
      let slot := server.items tx.itemKey
      if slot.available t then
        match slot.committed with
        | none =>
            let row := insertedRow tx proposed
            some ({ server with
                items := server.items.hold tx.itemKey t (some row)
                itemKeys := server.itemKeys.insert tx.itemKey }.resume t (tx.written row))
        | some current =>
            -- The update arm draws a sequence number of its own.
            let sequence := server.vaultChangeSequence + 1
            let row := updatedRow tx current sequence
            some ({ server with
                vaultChangeSequence := sequence
                items := server.items.hold tx.itemKey t (some row) }.resume t (tx.written row))
      else none
  | .recordMutationOutcome statusCode body =>
      let slot := server.outcomes tx.outcomeKey
      if slot.available t then
        match slot.view t with
        | some _ => some (server.resume t { tx with phase := .finish .failed })
        | none =>
            let row := ⟨tx.mutation.vaultId, statusCode, body⟩
            some ({ server with outcomes := server.outcomes.hold tx.outcomeKey t (some row) }.resume t
              { tx with recorded := some row, phase := .finish (.response statusCode body) })
      else none
  | .finish outcome =>
      let ended := if commits tx.backend outcome then server.commit t else server.rollback t
      some ((ended.settle tx outcome).releaseLocks t)

inductive Action where
  | postItem (t : TxId) (backend : Backend) (accountId vaultId : Id) (mutation : Mutation)
      (now : Timestamp)
  | statement (t : TxId)
  -- Any error on the way: a lost connection, a deadlock, a constraint.
  | fail (t : TxId)

def postItem (backend : Backend) (accountId vaultId : Id) (mutation : Mutation) (now : Timestamp) :
    Option Tx :=
  if isValidId vaultId && isValidMutation backend mutation && mutation.vaultId == vaultId then
    (decodeB64 (backend == .rust) mutation.ciphertext).map fun ciphertext =>
      { backend, accountId, mutation, ciphertext, now, phase := .findReplay }
  else none

def step (server : Server) : Action → Option Server
  | .postItem t backend accountId vaultId mutation now =>
      match server.txs t with
      | some _ => none
      | none =>
          match postItem backend accountId vaultId mutation now with
          | some tx => some (server.resume t tx)
          | none =>
              some { server with
                settled := server.settled ++ [⟨accountId, mutation, .badRequest, false⟩] }
  | .statement t => (server.txs t).bind fun tx => statement hashtext server t tx
  | .fail t =>
      (server.txs t).map fun tx =>
        ((server.rollback t).settle { tx with recorded := none } .failed).releaseLocks t

/-- The statement that leaves `server` in the given state, with what its guards have checked. -/
inductive Executed (server : Server) (t : TxId) (tx : Tx) : Server → Prop where
  | replay (row : MutationOutcome) (phase : tx.phase = .findReplay)
      (found : (server.outcomes tx.outcomeKey).committed = some row) :
      Executed server t tx
        ((server.settle tx (.response row.statusCode row.responseBody)).releaseLocks t)
  | noReplay (phase : tx.phase = .findReplay)
      (absent : (server.outcomes tx.outcomeKey).committed = none) :
      Executed server t tx (server.resume t { tx with phase := .acquireMutationLock })
  | lock (key : Int) (phase : tx.phase = .acquireMutationLock) :
      Executed server t tx
        ({ server with
            mutationLocks := Function.update server.mutationLocks key (some t) }.resume t
          { tx with phase := .findMutationOutcome })
  | outcome (row : MutationOutcome) (phase : tx.phase = .findMutationOutcome)
      (found : (server.outcomes tx.outcomeKey).view t = some row) :
      Executed server t tx (server.resume t
        { tx with phase := .finish (.response row.statusCode row.responseBody) })
  | noOutcome (phase : tx.phase = .findMutationOutcome)
      (absent : (server.outcomes tx.outcomeKey).view t = none) :
      Executed server t tx (server.resume t { tx with phase := .insertVault })
  | vaultExists (phase : tx.phase = .insertVault)
      (present : (server.vaults tx.vaultKey).committed.isSome = true) :
      Executed server t tx (server.resume t { tx with phase := .selectVault })
  | vaultInserted (phase : tx.phase = .insertVault)
      (absent : (server.vaults tx.vaultKey).committed = none)
      (available : (server.vaults tx.vaultKey).available t = true) :
      Executed server t tx
        ({ server with vaults := server.vaults.hold tx.vaultKey t (some tx.accountId) }.resume t
          { tx with vault := some tx.accountId, phase := .selectVault })
  | owner (phase : tx.phase = .selectVault)
      (owned : (server.vaults tx.vaultKey).view t = some tx.accountId) :
      Executed server t tx (server.resume t { tx with phase := .getItemForUpdate })
  | notOwner (phase : tx.phase = .selectVault)
      (other : (server.vaults tx.vaultKey).view t ≠ some tx.accountId) :
      Executed server t tx (server.resume t { tx with phase := .finish .notFound })
  | noItem (phase : tx.phase = .getItemForUpdate)
      (absent : (server.items tx.itemKey).committed = none) :
      Executed server t tx (server.resume t (compareRevision tx none))
  | item (row : ItemRow) (phase : tx.phase = .getItemForUpdate)
      (found : (server.items tx.itemKey).committed = some row)
      (available : (server.items tx.itemKey).available t = true) :
      Executed server t tx
        ({ server with items := server.items.hold tx.itemKey t (some row) }.resume t
          (compareRevision tx (some row)))
  | drawn (phase : tx.phase = .nextval) :
      Executed server t tx
        ({ server with vaultChangeSequence := server.vaultChangeSequence + 1 }.resume t
          { tx with phase := .upsertItem (server.vaultChangeSequence + 1) })
  | inserted (proposed : Nat) (phase : tx.phase = .upsertItem proposed)
      (available : (server.items tx.itemKey).available t = true)
      (absent : (server.items tx.itemKey).committed = none) :
      Executed server t tx
        ({ server with
            items := server.items.hold tx.itemKey t (some (insertedRow tx proposed))
            itemKeys := server.itemKeys.insert tx.itemKey }.resume t
          (tx.written (insertedRow tx proposed)))
  | updated (proposed : Nat) (current : ItemRow) (phase : tx.phase = .upsertItem proposed)
      (available : (server.items tx.itemKey).available t = true)
      (found : (server.items tx.itemKey).committed = some current) :
      Executed server t tx
        ({ server with
            vaultChangeSequence := server.vaultChangeSequence + 1
            items := server.items.hold tx.itemKey t
              (some (updatedRow tx current (server.vaultChangeSequence + 1))) }.resume t
          (tx.written (updatedRow tx current (server.vaultChangeSequence + 1))))
  | duplicate (statusCode : Nat) (body : ResponseBody) (row : MutationOutcome)
      (phase : tx.phase = .recordMutationOutcome statusCode body)
      (found : (server.outcomes tx.outcomeKey).view t = some row) :
      Executed server t tx (server.resume t { tx with phase := .finish .failed })
  | recorded (statusCode : Nat) (body : ResponseBody)
      (phase : tx.phase = .recordMutationOutcome statusCode body)
      (available : (server.outcomes tx.outcomeKey).available t = true)
      (absent : (server.outcomes tx.outcomeKey).view t = none) :
      Executed server t tx
        ({ server with
            outcomes := server.outcomes.hold tx.outcomeKey t
              (some ⟨tx.mutation.vaultId, statusCode, body⟩) }.resume t
          { tx with
            recorded := some ⟨tx.mutation.vaultId, statusCode, body⟩
            phase := .finish (.response statusCode body) })
  | finished (outcome : ApplyOutcome) (phase : tx.phase = .finish outcome) :
      Executed server t tx
        (((if commits tx.backend outcome then server.commit t else server.rollback t).settle tx
          outcome).releaseLocks t)

theorem statement_cases {hashtext : String → Int} {server next : Server} {t : TxId} {tx : Tx}
    (executed : statement hashtext server t tx = some next) : Executed server t tx next := by
  unfold statement at executed
  split at executed
  case h_1 phase =>
    split at executed <;> cases executed
    · exact .replay _ phase ‹_›
    · exact .noReplay phase ‹_›
  case h_2 phase =>
    dsimp only at executed
    split at executed <;> cases executed
    exact .lock _ phase
  case h_3 phase =>
    split at executed <;> cases executed
    · exact .outcome _ phase ‹_›
    · exact .noOutcome phase ‹_›
  case h_4 phase =>
    dsimp only at executed
    split at executed
    case isTrue =>
      cases executed
      exact .vaultExists phase ‹_›
    case isFalse absent =>
      split at executed <;> cases executed
      exact .vaultInserted phase (by simpa using absent) ‹_›
  case h_5 phase =>
    split at executed <;> cases executed
    · exact .owner phase ‹_›
    · exact .notOwner phase ‹_›
  case h_6 phase =>
    dsimp only at executed
    split at executed
    · cases executed
      exact .noItem phase ‹_›
    · split at executed <;> cases executed
      exact .item _ phase ‹_› ‹_›
  case h_7 phase =>
    cases executed
    exact .drawn phase
  case h_8 proposed phase =>
    dsimp only at executed
    split at executed
    · split at executed <;> cases executed
      · exact .inserted _ phase ‹_› ‹_›
      · exact .updated _ _ phase ‹_› ‹_›
    · cases executed
  case h_9 statusCode body phase =>
    dsimp only at executed
    split at executed
    · split at executed <;> cases executed
      · exact .duplicate _ _ _ phase ‹_›
      · exact .recorded _ _ phase ‹_› ‹_›
    · cases executed
  case h_10 outcome phase =>
    cases executed
    exact .finished outcome phase

inductive Stepped (server : Server) : Action → Server → Prop where
  | accepted (t : TxId) (backend : Backend) (accountId vaultId : Id) (mutation : Mutation)
      (now : Timestamp) (tx : Tx) (closed : server.txs t = none)
      (checked : postItem backend accountId vaultId mutation now = some tx) :
      Stepped server (.postItem t backend accountId vaultId mutation now) (server.resume t tx)
  | refused (t : TxId) (backend : Backend) (accountId vaultId : Id) (mutation : Mutation)
      (now : Timestamp) :
      Stepped server (.postItem t backend accountId vaultId mutation now)
        { server with
          settled := server.settled ++ [⟨accountId, mutation, .badRequest, false⟩] }
  | statement (t : TxId) (tx : Tx) (next : Server) (opened : server.txs t = some tx)
      (executed : Executed server t tx next) : Stepped server (.statement t) next
  | failed (t : TxId) (tx : Tx) (opened : server.txs t = some tx) :
      Stepped server (.fail t)
        (((server.rollback t).settle { tx with recorded := none } .failed).releaseLocks t)

theorem step_cases {hashtext : String → Int} {server next : Server} {action : Action}
    (stepped : step hashtext server action = some next) : Stepped server action next := by
  cases action with
  | postItem t backend accountId vaultId mutation now =>
      simp only [step] at stepped
      split at stepped
      · cases stepped
      · split at stepped <;> cases stepped
        · exact .accepted _ _ _ _ _ _ _ ‹_› ‹_›
        · exact .refused _ _ _ _ _ _
  | statement t =>
      simp only [step, Option.bind_eq_some_iff] at stepped
      obtain ⟨tx, opened, executed⟩ := stepped
      exact .statement t tx next opened (statement_cases executed)
  | fail t =>
      simp only [step, Option.map_eq_some_iff] at stepped
      obtain ⟨tx, opened, rfl⟩ := stepped
      exact .failed t tx opened

def lengthHash (value : String) : Int := value.length

def sampleMutation (mutationId itemId ciphertext : String) (baseRevision : Int) : Mutation where
  mutationId := mutationId
  itemId := itemId
  vaultId := "vault"
  baseRevision := baseRevision
  ciphertext := ciphertext
  envelopeVersion := envelopeVersionV1
  deleted := false

end ZenPass.Sync
