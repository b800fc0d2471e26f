import ZenPass.Lib.Transition
import ZenPass.Web.VaultSession

set_option autoImplicit false

-- A task is a call that is suspended at an await, an answer is what the awaited promise settles
-- with.

namespace ZenPass.Web

open KeyedStore Sdk Wire

structure Conflict where
  mutationId : Id
  current : ItemRecord
  attempted : Mutation
deriving DecidableEq, Repr

inductive Call (D : Type) where
  | unlockWithPassword (bundle : AccountBundle)
  | unlockWithRecovery (bundle : AccountBundle)
  | saveItem (data : D) (itemId : Id)
  | deleteItem (itemId : Id)
  | undoDeleteIfLocal (mutationId itemId : Id)
  | resolveConflict (conflict : Conflict) (resolution : D)
  | refreshFromRepository
  | lock
deriving DecidableEq, Repr

structure Load where
  generation : Nat
  session : Nat
  bundle : AccountBundle
deriving DecidableEq, Repr

inductive Task (D : Type) where
  | unlocking (bundle : AccountBundle)
  | listing (load : Load)
  | openingRecord (load : Load) (itemId : Id) (rest : List ItemRecord)
  | listingQueue (load : Load)
  | openingQueued (load : Load) (itemId : Id) (rest : List QueuedMutation)
  | sealingSave (generation : Nat) (bundle : AccountBundle) (itemId : Id) (data : D)
  | enqueuingSave (generation : Nat) (itemId : Id) (data : D)
  | sealingDelete (bundle : AccountBundle) (itemId : Id)
  | enqueuingDelete (itemId : Id)
  | readingUndo (mutationId itemId : Id)
  | dequeuingUndo (itemId : Id)
  | sealingResolution (generation : Nat) (bundle : AccountBundle) (conflict : Conflict) (data : D)
  | resolving (generation : Nat) (itemId : Id) (data : D)
  | locking
deriving DecidableEq, Repr

inductive Answer (D : Type) where
  | session (session : Nat)
  | records (records : List ItemRecord)
  -- `none` when the payload cannot be opened or parsed.
  | opened (data : Option D)
  | queue (entries : List QueuedMutation)
  | envelope (mutationId : Id) (envelope : Bytes)
  | queued (entry : Option QueuedMutation)
  | done
  | failed
deriving DecidableEq, Repr

/-- What runs up to the next await: the state, where the call is then suspended (`none` at its
end), and the mutation it hands to the sync engine. -/
structure Progress (D : Type) where
  vault : VaultSession D
  task : Option (Task D) := none
  mutation : Option Mutation := none

namespace VaultSession

variable {D : Type}

def isGenerationCurrent (vault : VaultSession D) (generation : Nat) : Bool :=
  generation == vault.generation && vault.session.isSome

def cleared (vault : VaultSession D) : VaultSession D where
  generation := vault.generation + 1

/-- The end of an edit whose cache write is gated. -/
def finishEdit (vault : VaultSession D) (generation : Nat) (itemId : Id) (data : D) :
    VaultSession D :=
  if vault.isGenerationCurrent generation then vault.saved itemId data else vault

def startLoad (vault : VaultSession D) : Progress D :=
  match vault.session, vault.bundle with
  | some session, some bundle =>
      { vault, task := some (.listing ⟨vault.generation, session, bundle⟩) }
  | _, _ => { vault }

def nextRecord (load : Load) (vault : VaultSession D) : List ItemRecord → Progress D
  | [] =>
      if vault.isGenerationCurrent load.generation then { vault, task := some (.listingQueue load) }
      else { vault }
  | record :: rest =>
      if vault.isGenerationCurrent load.generation then
        let known :=
          { vault with revisionCache := vault.revisionCache.set record.itemId record.revision }
        if record.deleted then nextRecord load (known.addDeleted record.itemId) rest
        else { vault := known, task := some (.openingRecord load record.itemId rest) }
      else { vault }

def nextQueued (load : Load) (vault : VaultSession D) : List QueuedMutation → Progress D
  | [] => { vault }
  | entry :: rest =>
      if vault.isGenerationCurrent load.generation then
        if entry.state = .conflict ∨ entry.mutation.vaultId ≠ load.bundle.vaultId then
          nextQueued load vault rest
        else if entry.mutation.deleted then
          nextQueued load (vault.addDeleted entry.mutation.itemId) rest
        else { vault, task := some (.openingQueued load entry.mutation.itemId rest) }
      else { vault }

def start (validate : D → List String) (vault : VaultSession D) : Call D → Progress D
  | .unlockWithPassword bundle | .unlockWithRecovery bundle =>
      { vault := { vault with generation := vault.generation + 1 }, task := some (.unlocking bundle) }
  | .saveItem data itemId =>
      if validate data ≠ [] then { vault }
      else
        match vault.session, vault.bundle with
        | some _, some bundle =>
            { vault, task := some (.sealingSave vault.generation bundle itemId data) }
        | _, _ => { vault }
  | .deleteItem itemId =>
      match vault.session, vault.bundle, vault.itemCache.get itemId with
      | some _, some bundle, some _ => { vault, task := some (.sealingDelete bundle itemId) }
      | _, _, _ => { vault }
  | .undoDeleteIfLocal mutationId itemId => { vault, task := some (.readingUndo mutationId itemId) }
  | .resolveConflict conflict resolution =>
      match vault.session, vault.bundle with
      | some _, some bundle =>
          if validate resolution ≠ [] then { vault }
          else
            { vault
              task := some (.sealingResolution vault.generation bundle conflict resolution) }
      | _, _ => { vault }
  | .refreshFromRepository => vault.startLoad
  | .lock => if vault.session.isSome then { vault, task := some .locking } else { vault := vault.cleared }

def resume (vault : VaultSession D) : Task D → Answer D → Option (Progress D)
  -- The `finally` block of `lock` also runs when the worker fails.
  | .locking, .done | .locking, .failed => some { vault := vault.cleared }
  | _, .failed => some { vault }
  -- The session is installed without a look at the generation.
  | .unlocking bundle, .session session =>
      some (startLoad { vault with session := some session, bundle := some bundle })
  | .listing load, .records records => some (vault.nextRecord load records)
  | .openingRecord load itemId rest, .opened (some data) =>
      if vault.isGenerationCurrent load.generation then
        some ((vault.cache itemId data).nextRecord load rest)
      else some { vault }
  | .openingRecord load _ rest, .opened none => some (vault.nextRecord load rest)
  | .listingQueue load, .queue entries =>
      if vault.isGenerationCurrent load.generation then some (vault.nextQueued load entries)
      else some { vault }
  | .openingQueued load itemId rest, .opened (some data) =>
      if vault.isGenerationCurrent load.generation then
        some (((vault.cache itemId data).undelete itemId).nextQueued load rest)
      else some { vault }
  | .openingQueued load _ rest, .opened none => some (vault.nextQueued load rest)
  | .sealingSave generation bundle itemId data, .envelope mutationId envelope =>
      some
        { vault
          task := some (.enqueuingSave generation itemId data)
          mutation := some (vault.mutationOf bundle mutationId itemId (encodeB64 envelope) false) }
  | .enqueuingSave generation itemId data, .done =>
      some { vault := vault.finishEdit generation itemId data }
  | .sealingDelete bundle itemId, .envelope mutationId envelope =>
      some
        { vault
          task := some (.enqueuingDelete itemId)
          mutation := some (vault.mutationOf bundle mutationId itemId (encodeB64 envelope) true) }
  -- No look at the generation here either.
  | .enqueuingDelete itemId, .done => some { vault := vault.tombstoned itemId }
  | .readingUndo _ itemId, .queued (some entry) =>
      if entry.state = .localClean then some { vault }
      else some { vault, task := some (.dequeuingUndo itemId) }
  | .readingUndo _ _, .queued none => some { vault }
  | .dequeuingUndo itemId, .done => some { vault := vault.undelete itemId }
  | .sealingResolution generation bundle conflict data, .envelope mutationId envelope =>
      some
        { vault
          task := some (.resolving generation conflict.current.itemId data)
          mutation := some
            { mutationId
              itemId := conflict.current.itemId
              vaultId := bundle.vaultId
              baseRevision := conflict.current.revision
              ciphertext := encodeB64 envelope
              envelopeVersion := Sync.envelopeVersionV1
              deleted := false } }
  | .resolving generation itemId data, .done =>
      some { vault := vault.finishEdit generation itemId data }
  | _, _ => none

end VaultSession

/-- `opened` are the crypto sessions that the unlocks have got, with their bundles, and `mutations`
those that were handed to the sync engine. After a lock has resolved, `lockResolved` stays until
the next unlock is called. -/
structure VaultRun (D : Type) where
  vault : VaultSession D
  tasks : Nat → Option (Task D)
  opened : List (Nat × AccountBundle)
  mutations : List Mutation
  lockResolved : Bool

inductive VaultAction (D : Type) where
  | call (t : Nat) (call : Call D)
  | resume (t : Nat) (answer : Answer D)
deriving DecidableEq, Repr

namespace VaultRun

variable {D : Type}

def initial : VaultRun D where
  vault := {}
  tasks := fun _ => none
  opened := []
  mutations := []
  lockResolved := false

def advance (state : VaultRun D) (t : Nat) (progress : Progress D) : VaultRun D :=
  { state with
    vault := progress.vault
    tasks := Function.update state.tasks t progress.task
    mutations := state.mutations ++ progress.mutation.toList }

/-- Only a lock that awaits nothing has resolved at its call. -/
def lockResolvedByCall (state : VaultRun D) : Call D → Bool
  | .unlockWithPassword _ | .unlockWithRecovery _ => false
  | .lock => state.lockResolved || state.vault.session.isNone
  | _ => state.lockResolved

def lockResolvedByResume (state : VaultRun D) : Task D → Answer D → Bool
  | .locking, .done => true
  | _, _ => state.lockResolved

def openedByResume (state : VaultRun D) : Task D → Answer D → List (Nat × AccountBundle)
  | .unlocking bundle, .session session => state.opened ++ [(session, bundle)]
  | _, _ => state.opened

def step (validate : D → List String) (state : VaultRun D) : VaultAction D → Option (VaultRun D)
  | .call t call =>
      if (state.tasks t).isSome then none
      else
        some { state.advance t (state.vault.start validate call) with
          lockResolved := state.lockResolvedByCall call }
  | .resume t answer =>
      match state.tasks t with
      | none => none
      | some task =>
          (state.vault.resume task answer).map fun progress =>
            { state.advance t progress with
              opened := state.openedByResume task answer
              lockResolved := state.lockResolvedByResume task answer }

end VaultRun

end ZenPass.Web
