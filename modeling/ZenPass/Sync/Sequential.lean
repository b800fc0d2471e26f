import ZenPass.Sync.Locks

set_option autoImplicit false

-- `applyMutation` as one step on the committed rows, for runs in which no two transactions
-- overlap.

namespace ZenPass.Sync

open Wire

structure Store where
  owners : Id → Option Id
  rows : Id × Id → Option ItemRow
  outcomes : Id × Id → Option MutationOutcome
  vaultChangeSequence : Nat

namespace Store

def empty : Store where
  owners := fun _ => none
  rows := fun _ => none
  outcomes := fun _ => none
  vaultChangeSequence := 0

def ensureVaultOwnership (store : Store) (tx : Tx) : Store :=
  if (store.owners tx.vaultKey).isSome then store
  else { store with owners := Function.update store.owners tx.vaultKey (some tx.accountId) }

def recordMutationOutcome (store : Store) (tx : Tx) (statusCode : Nat) (body : ResponseBody) :
    Store :=
  { store with
    outcomes := Function.update store.outcomes tx.outcomeKey
      (some ⟨tx.mutation.vaultId, statusCode, body⟩) }

/-- The update arm draws a second sequence number. -/
def upsertItem (store : Store) (tx : Tx) : Store × ItemRow :=
  match tx.item with
  | none =>
      let row := insertedRow tx (store.vaultChangeSequence + 1)
      ({ store with
          rows := Function.update store.rows tx.itemKey (some row)
          vaultChangeSequence := store.vaultChangeSequence + 1 }, row)
  | some current =>
      let row := updatedRow tx current (store.vaultChangeSequence + 2)
      ({ store with
          rows := Function.update store.rows tx.itemKey (some row)
          vaultChangeSequence := store.vaultChangeSequence + 2 }, row)

end Store

def applyMutation (store : Store) (tx : Tx) : Store × ApplyOutcome :=
  match store.outcomes tx.outcomeKey with
  | some row => (store, .response row.statusCode row.responseBody)
  | none =>
      let owned := store.ensureVaultOwnership tx
      if owned.owners tx.vaultKey ≠ some tx.accountId then (store, .notFound)
      else
        let compared := compareRevision tx (store.rows tx.itemKey)
        match compared.phase with
        | .recordMutationOutcome statusCode body =>
            (owned.recordMutationOutcome tx statusCode body, .response statusCode body)
        | .nextval =>
            let (written, row) := owned.upsertItem compared
            let body := .record (toItemRecord tx.backend row)
            (written.recordMutationOutcome tx 201 body, .response 201 body)
        | _ => (if commits tx.backend .badRequest then owned else store, .badRequest)

def postMutation (store : Store) (backend : Backend) (accountId vaultId : Id) (mutation : Mutation)
    (now : Timestamp) : Store × ApplyOutcome :=
  match postItem backend accountId vaultId mutation now with
  | none => (store, .badRequest)
  | some tx => applyMutation store tx

def ApplyOutcome.statusCode : ApplyOutcome → Nat
  | .notFound => 404
  | .badRequest => 400
  | .response statusCode _ => statusCode
  | .failed => 500

section

variable {store : Store} {tx : Tx}

theorem applyMutation_replay {row : MutationOutcome} (found : store.outcomes tx.outcomeKey = some row) :
    applyMutation store tx = (store, .response row.statusCode row.responseBody) := by
  simp [applyMutation, found]

theorem ensureVaultOwnership_rows : (store.ensureVaultOwnership tx).rows = store.rows := by
  unfold Store.ensureVaultOwnership
  split <;> rfl

theorem ensureVaultOwnership_sequence :
    (store.ensureVaultOwnership tx).vaultChangeSequence = store.vaultChangeSequence := by
  unfold Store.ensureVaultOwnership
  split <;> rfl

theorem ensureVaultOwnership_outcomes :
    (store.ensureVaultOwnership tx).outcomes = store.outcomes := by
  unfold Store.ensureVaultOwnership
  split <;> rfl

theorem postItem_request {backend : Backend} {accountId vaultId : Id} {mutation : Mutation}
    {now : Timestamp} (checked : postItem backend accountId vaultId mutation now = some tx) :
    tx.backend = backend ∧ tx.accountId = accountId ∧ tx.mutation = mutation := by
  unfold postItem at checked
  split at checked
  · rw [Option.map_eq_some_iff] at checked
    obtain ⟨ciphertext, -, rfl⟩ := checked
    exact ⟨rfl, rfl, rfl⟩
  · cases checked

structure Accepted (store next : Store) (tx : Tx) (row : ItemRow) : Prop where
  rows : next.rows = Function.update store.rows tx.itemKey (some row)
  outcomes : next.outcomes = Function.update store.outcomes tx.outcomeKey
    (some ⟨tx.mutation.vaultId, 201, .record (toItemRecord tx.backend row)⟩)
  ciphertext : row.ciphertext = tx.ciphertext
  deleted : row.deleted = tx.mutation.deleted
  revision : row.revision = revisionOf (store.rows tx.itemKey) + 1

theorem accepted_upsertItem (owned : Store) (rows : owned.rows = store.rows)
    (outcomes : owned.outcomes = store.outcomes) (item : tx.item = store.rows tx.itemKey) :
    Accepted store
      ((owned.upsertItem tx).1.recordMutationOutcome tx 201
        (.record (toItemRecord tx.backend (owned.upsertItem tx).2))) tx (owned.upsertItem tx).2 := by
  unfold Store.upsertItem
  cases held : tx.item with
  | none =>
      constructor
      · simp [Store.recordMutationOutcome, rows]
      · simp [Store.recordMutationOutcome, outcomes]
      · rfl
      · rfl
      · simp [insertedRow, nextRevision, ← item, revisionOf]
  | some current =>
      constructor
      · simp [Store.recordMutationOutcome, rows]
      · simp [Store.recordMutationOutcome, outcomes]
      · rfl
      · rfl
      · simp [updatedRow, nextRevision, ← item, revisionOf]

theorem applyMutation_based (fresh : store.outcomes tx.outcomeKey = none)
    (based : tx.mutation.baseRevision = revisionOf (store.rows tx.itemKey)) :
    applyMutation store tx = (store, .notFound) ∨
      ∃ next row, applyMutation store tx =
          (next, .response 201 (.record (toItemRecord tx.backend row))) ∧
        Accepted store next tx row := by
  have compared : compareRevision tx (store.rows tx.itemKey) =
      { tx with item := store.rows tx.itemKey, phase := .nextval } := by
    have same : tx.mutation.baseRevision = ((store.rows tx.itemKey).elim 0 ItemRow.revision : Nat) :=
      based
    simp [compareRevision, same]
  by_cases owner : (store.ensureVaultOwnership tx).owners tx.vaultKey = some tx.accountId
  · have accepted : Accepted store _
        { tx with item := store.rows tx.itemKey, phase := .nextval } _ :=
      accepted_upsertItem (store.ensureVaultOwnership tx) ensureVaultOwnership_rows
        ensureVaultOwnership_outcomes rfl
    refine .inr ⟨_, _, ?_, accepted.rows, accepted.outcomes, accepted.ciphertext, accepted.deleted,
      accepted.revision⟩
    simp [applyMutation, fresh, owner, compared]
    rfl
  · left
    simp [applyMutation, fresh, owner]

theorem applyMutation_created {next : Store} {body : ResponseBody}
    (fresh : store.outcomes tx.outcomeKey = none)
    (created : applyMutation store tx = (next, .response 201 body)) :
    ∃ row, body = .record (toItemRecord tx.backend row) ∧ Accepted store next tx row := by
  have based : tx.mutation.baseRevision = revisionOf (store.rows tx.itemKey) := by
    by_contra other
    unfold applyMutation at created
    rw [fresh] at created
    dsimp only at created
    split at created
    · cases created
    · have refused : tx.mutation.baseRevision ≠
          ((store.rows tx.itemKey).elim 0 ItemRow.revision : Nat) := other
      cases held : store.rows tx.itemKey with
      | none =>
          rw [held] at refused
          simp only [compareRevision, held] at created
          rw [if_pos refused] at created
          cases created
      | some row =>
          rw [held] at refused
          simp only [compareRevision, held] at created
          rw [if_pos refused] at created
          cases created
  rcases applyMutation_based fresh based with refused | ⟨after, row, accepted, left⟩
  · rw [refused] at created
    cases created
  · rw [accepted] at created
    cases created
    exact ⟨row, rfl, left⟩

end

end ZenPass.Sync
