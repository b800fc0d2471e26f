import ZenPass.Lib.KeyedStore
import ZenPass.Sdk.Repository

set_option autoImplicit false

-- `D` is the type of decrypted item data. The methods are split at their awaits: what runs between
-- two of them is one function on this state.

namespace ZenPass.Web

open KeyedStore Sdk

structure VaultSession (D : Type) where
  session : Option Nat := none
  bundle : Option AccountBundle := none
  itemCache : InsertionMap Id D := .empty
  revisionCache : InsertionMap Id Int := .empty
  deletedLocally : List Id := []
  selectedItemId : Option Id := none
  generation : Nat := 0

namespace VaultSession

variable {D : Type}

/-- A `Set` of ids: nothing reads its order. -/
def addDeleted (vault : VaultSession D) (itemId : Id) : VaultSession D :=
  { vault with deletedLocally := vault.deletedLocally.insert itemId }

def undelete (vault : VaultSession D) (itemId : Id) : VaultSession D :=
  { vault with deletedLocally := vault.deletedLocally.filter fun other => other ≠ itemId }

def cache (vault : VaultSession D) (itemId : Id) (data : D) : VaultSession D :=
  { vault with itemCache := vault.itemCache.set itemId data }

def loadRecord (vault : VaultSession D) (record : ItemRecord) (opened : Option D) : VaultSession D :=
  let known := { vault with revisionCache := vault.revisionCache.set record.itemId record.revision }
  if record.deleted then known.addDeleted record.itemId
  else
    match opened with
    | some data => known.cache record.itemId data
    | none => known

/-- The overlay of a queued mutation. -/
def loadQueued (vault : VaultSession D) (bundle : AccountBundle) (entry : QueuedMutation)
    (opened : Option D) : VaultSession D :=
  if entry.state = .conflict ∨ entry.mutation.vaultId ≠ bundle.vaultId then vault
  else if entry.mutation.deleted then vault.addDeleted entry.mutation.itemId
  else
    match opened with
    | some data => (vault.cache entry.mutation.itemId data).undelete entry.mutation.itemId
    | none => vault

def baseRevision (vault : VaultSession D) (itemId : Id) : Int :=
  (vault.revisionCache.get itemId).getD 0

def mutationOf (vault : VaultSession D) (bundle : AccountBundle) (mutationId itemId : Id)
    (ciphertext : String) (deleted : Bool) : Mutation where
  mutationId := mutationId
  itemId := itemId
  vaultId := bundle.vaultId
  baseRevision := vault.baseRevision itemId
  ciphertext := ciphertext
  envelopeVersion := Sync.envelopeVersionV1
  deleted := deleted

def saved (vault : VaultSession D) (itemId : Id) (data : D) : VaultSession D :=
  (vault.cache itemId data).undelete itemId

/-- What `deleteItem` does after its mutation has been queued. -/
def tombstoned (vault : VaultSession D) (itemId : Id) : VaultSession D :=
  let deleted := vault.addDeleted itemId
  if deleted.selectedItemId = some itemId then { deleted with selectedItemId := none } else deleted

theorem loadRecord_bundle (vault : VaultSession D) (record : ItemRecord) (opened : Option D) :
    (vault.loadRecord record opened).bundle = vault.bundle := by
  unfold loadRecord
  cases record.deleted <;> cases opened <;> rfl

theorem loadQueued_bundle (vault : VaultSession D) (bundle : AccountBundle) (entry : QueuedMutation)
    (opened : Option D) : (vault.loadQueued bundle entry opened).bundle = vault.bundle := by
  unfold loadQueued
  split
  · rfl
  · cases entry.mutation.deleted <;> cases opened <;> rfl

theorem tombstoned_bundle (vault : VaultSession D) (itemId : Id) :
    (vault.tombstoned itemId).bundle = vault.bundle := by
  unfold tombstoned
  dsimp only
  split <;> rfl

end VaultSession

end ZenPass.Web
