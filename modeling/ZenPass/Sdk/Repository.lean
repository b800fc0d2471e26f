import ZenPass.Lib.KeyedStore
import ZenPass.Sync.Mutation

set_option autoImplicit false

namespace ZenPass.Sdk

open KeyedStore

abbrev Id := String

/-- `ItemRecord` of the wire contract, timestamps as the text a backend sent. -/
structure ItemRecord where
  itemId : Id
  vaultId : Id
  ciphertext : String
  envelopeVersion : String
  revision : Int
  deleted : Bool
  createdAt : String
  updatedAt : String
deriving DecidableEq, Repr

abbrev Mutation := Sync.Mutation

structure AccountBundle where
  accountId : Id
  vaultId : Id
deriving DecidableEq, Repr

inductive ConflictReason where
  | revisionRegression
  | revisionMismatch
deriving DecidableEq, Repr

structure RecordConflictError where
  message : String
  reason : ConflictReason
deriving DecidableEq, Repr

def sameRecordBytes (a b : ItemRecord) : Bool :=
  a.ciphertext == b.ciphertext && a.envelopeVersion == b.envelopeVersion &&
    a.deleted == b.deleted && a.createdAt == b.createdAt && a.updatedAt == b.updatedAt

def assertMonotonicPut (existing : Option ItemRecord) (incoming : ItemRecord) :
    Except RecordConflictError Unit :=
  match existing with
  | none => .ok ()
  | some existing =>
      if incoming.revision < existing.revision then
        .error
          { message :=
              "putItem rejected: revision " ++ toString incoming.revision ++
                " regresses stored revision " ++ toString existing.revision ++
                " for " ++ incoming.vaultId ++ "/" ++ incoming.itemId
            reason := .revisionRegression }
      else if incoming.revision = existing.revision ∧ ¬ sameRecordBytes existing incoming then
        .error
          { message :=
              "putItem rejected: revision " ++ toString incoming.revision ++
                " for " ++ incoming.vaultId ++ "/" ++ incoming.itemId ++
                " is already stored with different content"
            reason := .revisionMismatch }
      else .ok ()

inductive MutationSyncState where
  | localDirty
  | syncing
  | retryable
  | conflict
  | localClean
deriving DecidableEq, Repr

structure QueuedMutation where
  mutation : Mutation
  state : MutationSyncState
  attempts : Nat
  nextRetryAt : Option Nat := none
  lastError : Option String := none
deriving DecidableEq, Repr

def QueuedMutation.mutationId (entry : QueuedMutation) : Id := entry.mutation.mutationId

/-- The operations of a repository with contents `σ`. `ρ` is what a response can hold in the place
of a record, `ε` what `putItem` throws. -/
structure LocalRepository (σ ρ ε : Type) where
  getItem : σ → Id → Id → Option ρ
  putItem : σ → ρ → Except ε σ
  listItems : σ → Id → List ρ
  getCursor : σ → Id → Option String
  setCursor : σ → Id → String → σ
  enqueueMutation : σ → QueuedMutation → σ
  getQueuedMutation : σ → Id → Option QueuedMutation
  listQueuedMutations : σ → List QueuedMutation
  dequeueMutation : σ → Id → σ

/-- The queue is a keyed store of its own, which `putItem` neither reads nor writes. -/
structure LocalRepository.Lawful {σ ρ ε : Type} (repo : LocalRepository σ ρ ε) : Prop where
  getQueued_enqueue : ∀ state entry mutationId,
    repo.getQueuedMutation (repo.enqueueMutation state entry) mutationId =
      if mutationId = entry.mutationId then some entry else repo.getQueuedMutation state mutationId
  getQueued_dequeue : ∀ state removed mutationId,
    repo.getQueuedMutation (repo.dequeueMutation state removed) mutationId =
      if mutationId = removed then none else repo.getQueuedMutation state mutationId
  getQueued_putItem : ∀ state item next, repo.putItem state item = .ok next → ∀ mutationId,
    repo.getQueuedMutation next mutationId = repo.getQueuedMutation state mutationId
  putItem_enqueue : ∀ state entry item,
    (repo.putItem (repo.enqueueMutation state entry) item).isOk = (repo.putItem state item).isOk
  getQueued_setCursor : ∀ state vaultId cursor mutationId,
    repo.getQueuedMutation (repo.setCursor state vaultId cursor) mutationId =
      repo.getQueuedMutation state mutationId
  mem_listQueued : ∀ state entry, entry ∈ repo.listQueuedMutations state ↔
    ∃ mutationId, repo.getQueuedMutation state mutationId = some entry

inductive Operation where
  | getItem (vaultId itemId : Id)
  | putItem (item : ItemRecord)
  | listItems (vaultId : Id)
  | getCursor (vaultId : Id)
  | setCursor (vaultId : Id) (cursor : String)
  | enqueueMutation (entry : QueuedMutation)
  | getQueuedMutation (mutationId : Id)
  | listQueuedMutations
  | dequeueMutation (mutationId : Id)
deriving DecidableEq, Repr

inductive Result where
  | done
  | rejected (error : RecordConflictError)
  | item (record : Option ItemRecord)
  | items (records : List ItemRecord)
  | cursor (cursor : Option String)
  | queued (entry : Option QueuedMutation)
  | queue (entries : List QueuedMutation)
deriving DecidableEq, Repr

namespace LocalRepository

variable {σ : Type} (repo : LocalRepository σ ItemRecord RecordConflictError)

def perform (state : σ) : Operation → σ × Result
  | .getItem vaultId itemId => (state, .item (repo.getItem state vaultId itemId))
  | .putItem item =>
      match repo.putItem state item with
      | .ok next => (next, .done)
      | .error error => (state, .rejected error)
  | .listItems vaultId => (state, .items (repo.listItems state vaultId))
  | .getCursor vaultId => (state, .cursor (repo.getCursor state vaultId))
  | .setCursor vaultId cursor => (repo.setCursor state vaultId cursor, .done)
  | .enqueueMutation entry => (repo.enqueueMutation state entry, .done)
  | .getQueuedMutation mutationId => (state, .queued (repo.getQueuedMutation state mutationId))
  | .listQueuedMutations => (state, .queue (repo.listQueuedMutations state))
  | .dequeueMutation mutationId => (repo.dequeueMutation state mutationId, .done)

def results (state : σ) : List Operation → List Result
  | [] => []
  | op :: rest => (repo.perform state op).2 :: results (repo.perform state op).1 rest

end LocalRepository

structure InMemoryLocalRepository where
  items : InsertionMap String ItemRecord
  cursors : InsertionMap Id String
  queue : InsertionMap Id QueuedMutation

namespace InMemoryLocalRepository

def empty : InMemoryLocalRepository := ⟨.empty, .empty, .empty⟩

def key (vaultId itemId : Id) : String := vaultId ++ "\x00" ++ itemId

def putItem (repo : InMemoryLocalRepository) (item : ItemRecord) :
    Except RecordConflictError InMemoryLocalRepository :=
  match assertMonotonicPut (repo.items.get (key item.vaultId item.itemId)) item with
  | .ok () => .ok { repo with items := repo.items.set (key item.vaultId item.itemId) item }
  | .error error => .error error

def operations : LocalRepository InMemoryLocalRepository ItemRecord RecordConflictError where
  getItem repo vaultId itemId := repo.items.get (key vaultId itemId)
  putItem := putItem
  listItems repo vaultId := repo.items.values.filter fun item => item.vaultId = vaultId
  getCursor repo vaultId := repo.cursors.get vaultId
  setCursor repo vaultId cursor := { repo with cursors := repo.cursors.set vaultId cursor }
  enqueueMutation repo entry := { repo with queue := repo.queue.set entry.mutationId entry }
  getQueuedMutation repo mutationId := repo.queue.get mutationId
  listQueuedMutations repo := repo.queue.values
  dequeueMutation repo mutationId := { repo with queue := repo.queue.delete mutationId }

theorem putItem_isOk (repo : InMemoryLocalRepository) (item : ItemRecord) :
    (putItem repo item).isOk =
      (assertMonotonicPut (repo.items.get (key item.vaultId item.itemId)) item).isOk := by
  unfold putItem
  split <;> rename_i checked <;> rw [checked] <;> rfl

theorem operations_lawful : operations.Lawful where
  getQueued_enqueue state entry mutationId := by
    change (state.queue.set entry.mutationId entry).get mutationId = _
    exact state.queue.get_set entry.mutationId mutationId entry
  getQueued_dequeue state removed mutationId := by
    change (state.queue.delete removed).get mutationId = _
    exact state.queue.get_delete removed mutationId
  getQueued_putItem state item next put mutationId := by
    change putItem state item = .ok next at put
    unfold putItem at put
    split at put <;> cases put
    rfl
  putItem_enqueue state entry item := by
    change (putItem _ item).isOk = (putItem state item).isOk
    rw [putItem_isOk, putItem_isOk]
    rfl
  getQueued_setCursor _ _ _ _ := rfl
  mem_listQueued state entry := by
    change entry ∈ state.queue.values ↔ ∃ mutationId, state.queue.get mutationId = some entry
    simp [InsertionMap.values, InsertionMap.get_eq_some]

end InMemoryLocalRepository

def sampleEntry (mutationId : Id) : QueuedMutation where
  mutation :=
    { mutationId, itemId := "item", vaultId := "vault", baseRevision := 0, ciphertext := "b64:AAAA"
      envelopeVersion := Sync.envelopeVersionV1, deleted := false }
  state := .localDirty
  attempts := 0

def sampleRecord (revision : Int) : ItemRecord where
  itemId := "item"
  vaultId := "vault"
  ciphertext := "b64:AAAA"
  envelopeVersion := Sync.envelopeVersionV1
  revision := revision
  deleted := false
  createdAt := "2026-01-01T00:00:00.000Z"
  updatedAt := "2026-01-01T00:00:00.000Z"

end ZenPass.Sdk
