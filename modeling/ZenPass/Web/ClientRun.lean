import ZenPass.Web.ConflictRetention
import ZenPass.Web.LoadedView

set_option autoImplicit false

-- The session's methods and the sync engine run interleaved over one repository. The operations of
-- the repository that a method awaits take effect one by one before it goes on.

namespace ZenPass.Web

open KeyedStore Sdk Transition

variable {σ D : Type}

inductive Access where
  | listItems (vaultId : Id)
  | listQueuedMutations
  | getQueuedMutation (mutationId : Id)
  | enqueueEdit (mutation : Mutation)
  | dequeueMutation (mutationId : Id)
deriving DecidableEq, Repr

def Access.perform (repo : LocalRepository σ ItemRecord RecordConflictError) (state : σ) :
    Access → σ × Answer D
  | .listItems vaultId => (state, .records (repo.listItems state vaultId))
  | .listQueuedMutations => (state, .queue (repo.listQueuedMutations state))
  | .getQueuedMutation mutationId => (state, .queued (repo.getQueuedMutation state mutationId))
  | .enqueueEdit mutation => (Sdk.enqueueEdit repo state mutation, .done)
  | .dequeueMutation mutationId => (repo.dequeueMutation state mutationId, .done)

def accesses (before : Option (Task D)) (progress : Progress D) : List Access :=
  match before, progress.task with
  | _, some (.listing load) => [.listItems load.bundle.vaultId]
  | _, some (.listingQueue _) => [.listQueuedMutations]
  | _, some (.enqueuingSave _ _ _) | _, some (.enqueuingDelete _) =>
      progress.mutation.toList.map .enqueueEdit
  | _, some (.readingUndo mutationId _) => [.getQueuedMutation mutationId]
  | some (.readingUndo mutationId _), some (.dequeuingUndo _) => [.dequeueMutation mutationId]
  -- `resolveConflict` of the engine
  | some (.sealingResolution _ _ conflict _), some (.resolving _ _ _) =>
      .dequeueMutation conflict.mutationId :: progress.mutation.toList.map .enqueueEdit
  | _, _ => []

def openedRecord (records : List ItemRecord) : Option String :=
  (records.find? fun record => !record.deleted).map ItemRecord.ciphertext

def openedQueued (vaultId : Id) (entries : List QueuedMutation) : Option String :=
  (entries.find? fun entry => overlays vaultId entry && !entry.mutation.deleted).map
    fun entry => entry.mutation.ciphertext

def ciphertextAhead (task : Task D) (answer : Answer D) (progress : Progress D) : Option String :=
  match task, answer with
  | .listing _, .records records => openedRecord records
  | .openingRecord _ _ rest, .opened _ => openedRecord rest
  | .listingQueue load, .queue entries => openedQueued load.bundle.vaultId entries
  | .openingQueued load _ rest, .opened _ => openedQueued load.bundle.vaultId rest
  | _, _ => progress.mutation.map fun mutation => mutation.ciphertext

/-- A suspended method. `settled` is what the last of its accesses has answered, once all of them
have taken effect. -/
structure Suspension (D : Type) where
  task : Task D
  accesses : List Access
  settled : Option (Answer D) := none
  ciphertext : String := ""

/-- One page of the client; `versions` are the ciphertexts of what the session has cached. -/
structure ClientRun (σ D : Type) where
  vault : VaultSession D
  calls : Nat → Option (Suspension D)
  engine : SyncRun σ Body (Option RecordConflictError)
  versions : Id → String

inductive ClientStep (D : Type) where
  | call (t : Nat) (call : Call D)
  | perform (t : Nat)
  | resume (t : Nat)
  -- the answer of the crypto worker
  | worker (t : Nat) (answer : Answer D)
  | fail (t : Nat)
  | engine (action : SyncAction Body)

namespace ClientRun

def initial (state : σ) : ClientRun σ D where
  vault := {}
  calls := fun _ => none
  engine := .initial state
  versions := fun _ => ""

def started (validate : D → List String) (run : ClientRun σ D) (t : Nat) (call : Call D) :
    ClientRun σ D :=
  let progress := run.vault.start validate call
  { run with
    vault := progress.vault
    calls := Function.update run.calls t
      (progress.task.map fun task => { task, accesses := accesses none progress }) }

def resumed (run : ClientRun σ D) (t : Nat) (before : Suspension D) (answer : Answer D)
    (progress : Progress D) : ClientRun σ D :=
  { run with
    vault := progress.vault
    calls := Function.update run.calls t
      (progress.task.map fun task =>
        { task
          accesses := accesses (some before.task) progress
          ciphertext := (ciphertextAhead before.task answer progress).getD before.ciphertext })
    versions := fun itemId =>
      if run.vault.writesItem before.task answer = some itemId then before.ciphertext
      else run.versions itemId }

def goOn (run : ClientRun σ D) (t : Nat) (before : Suspension D) (answer : Answer D) :
    Option (ClientRun σ D) :=
  (run.vault.resume before.task answer).map (run.resumed t before answer)

section Step

variable (repo : LocalRepository σ ItemRecord RecordConflictError) (backoff : BackoffOptions)
  (vaultOf : Body → Id) (validate : D → List String)

def accessed (run : ClientRun σ D) (t : Nat) (before : Suspension D) (access : Access)
    (rest : List Access) : ClientRun σ D :=
  let (state, answer) := access.perform repo run.engine.repo
  { run with
    engine := { run.engine with repo := state }
    calls := Function.update run.calls t
      (some { before with
        accesses := rest
        settled := if rest.isEmpty then some answer else none }) }

def step (run : ClientRun σ D) : ClientStep D → Option (ClientRun σ D)
  | .call t call => if (run.calls t).isSome then none else some (run.started validate t call)
  | .perform t =>
      (run.calls t).bind fun before =>
        match before.accesses with
        | [] => none
        | access :: rest => some (run.accessed repo t before access rest)
  | .resume t =>
      (run.calls t).bind fun before => before.settled.bind fun answer => run.goOn t before answer
  | .worker t answer =>
      (run.calls t).bind fun before =>
        if before.accesses.isEmpty && before.settled.isNone then run.goOn t before answer else none
  | .fail t => (run.calls t).bind fun before => run.goOn t before .failed
  -- of a page only its repository survives a reload
  | .engine .restart => some (initial run.engine.repo)
  | .engine action =>
      (run.engine.step (bodyRepository repo) backoff vaultOf action).map fun engine =>
        { run with engine }

end Step

end ClientRun

structure EncryptedExport where
  format : String
  vaultId : Id
  items : List ItemRecord
deriving DecidableEq, Repr

def buildEncryptedExport (repo : LocalRepository σ ItemRecord RecordConflictError) (state : σ)
    (vault : VaultSession D) : Option EncryptedExport :=
  vault.bundle.map fun bundle =>
    { format := "zkpm-encrypted-export/v1"
      vaultId := bundle.vaultId
      items := repo.listItems state bundle.vaultId }

end ZenPass.Web
