import ZenPass.Sync.Alone

set_option autoImplicit false

namespace ZenPass.Sync

open Wire

def ItemRow.unnumbered (row : ItemRow) : ItemRow := { row with sequence := 0 }

def Store.unnumbered (store : Store) : Store :=
  { store with
    rows := fun key => (store.rows key).map ItemRow.unnumbered
    vaultChangeSequence := 0 }

/-- `applyMutation` on tables without sequence numbers. -/
def applyUnnumbered (store : Store) (request : Tx) : Store × ApplyOutcome :=
  ((applyMutation store request).1.unnumbered, (applyMutation store request).2)

section

variable {store : Store} {tx : Tx}

theorem unnumbered_eq (other store : Store) (owners : other.owners = store.owners)
    (rows : ∀ key, (other.rows key).map ItemRow.unnumbered = (store.rows key).map ItemRow.unnumbered)
    (outcomes : other.outcomes = store.outcomes) : other.unnumbered = store.unnumbered := by
  unfold Store.unnumbered
  rw [owners, outcomes]
  congr 1
  exact funext rows

theorem unnumbered_rows (store : Store) (key : Id × Id) :
    store.unnumbered.rows key = (store.rows key).map ItemRow.unnumbered := rfl

@[simp] theorem unnumbered_unnumbered (store : Store) :
    store.unnumbered.unnumbered = store.unnumbered := by
  refine unnumbered_eq store.unnumbered store rfl (fun key => ?_) rfl
  rw [unnumbered_rows, Option.map_map]
  rfl

theorem ensureVaultOwnership_unnumbered (store : Store) (tx : Tx) :
    store.unnumbered.ensureVaultOwnership tx = (store.ensureVaultOwnership tx).unnumbered := by
  unfold Store.ensureVaultOwnership
  change (if (store.owners tx.vaultKey).isSome then _ else _) = _
  split <;> rfl

theorem recordMutationOutcome_unnumbered (store : Store) (tx : Tx) (statusCode : Nat)
    (body : ResponseBody) : store.unnumbered.recordMutationOutcome tx statusCode body =
      (store.recordMutationOutcome tx statusCode body).unnumbered := rfl

theorem update_unnumbered (rows : Id × Id → Option ItemRow) (key : Id × Id) {row other : ItemRow}
    (same : row.unnumbered = other.unnumbered) (at_ : Id × Id) :
    (Function.update rows key (some row) at_).map ItemRow.unnumbered =
      (Function.update rows key (some other) at_).map ItemRow.unnumbered := by
  by_cases here : at_ = key
  · rw [here, Function.update_self, Function.update_self, Option.map_some, Option.map_some, same]
  · rw [Function.update_of_ne here, Function.update_of_ne here]

theorem unnumbered_update (store : Store) (key : Id × Id) (row : ItemRow) (at_ : Id × Id) :
    (Function.update store.unnumbered.rows key (some row) at_).map ItemRow.unnumbered =
      (Function.update store.rows key (some row) at_).map ItemRow.unnumbered := by
  by_cases here : at_ = key
  · rw [here, Function.update_self, Function.update_self]
  · rw [Function.update_of_ne here, Function.update_of_ne here, unnumbered_rows, Option.map_map]
    rfl

theorem upsertItem_unnumbered (store : Store) (tx : Tx) :
    (store.unnumbered.upsertItem { tx with item := tx.item.map ItemRow.unnumbered }).1.unnumbered =
        (store.upsertItem tx).1.unnumbered ∧
      toItemRecord tx.backend
          (store.unnumbered.upsertItem { tx with item := tx.item.map ItemRow.unnumbered }).2 =
        toItemRecord tx.backend (store.upsertItem tx).2 := by
  unfold Store.upsertItem
  cases item : tx.item with
  | none =>
      refine ⟨unnumbered_eq _ _ rfl (fun key => ?_) rfl, ?_⟩
      · refine (unnumbered_update store _ _ key).trans (update_unnumbered _ _ ?_ key)
        simp [ItemRow.unnumbered, insertedRow, nextRevision, item]
      · simp [toItemRecord, insertedRow, nextRevision, item]
  | some current =>
      refine ⟨unnumbered_eq _ _ rfl (fun key => ?_) rfl, ?_⟩
      · refine (unnumbered_update store _ _ key).trans (update_unnumbered _ _ ?_ key)
        simp [ItemRow.unnumbered, updatedRow, nextRevision, item]
      · simp [toItemRecord, ItemRow.unnumbered, updatedRow, nextRevision, item]

section

variable (fresh : store.outcomes tx.outcomeKey = none)
  (owner : (store.ensureVaultOwnership tx).owners tx.vaultKey = some tx.accountId)

include fresh owner

theorem applyMutation_strayEdit (absent : store.rows tx.itemKey = none)
    (other : tx.mutation.baseRevision ≠ 0) :
    applyMutation store tx =
      (if commits tx.backend .badRequest then store.ensureVaultOwnership tx else store,
        .badRequest) := by
  have compared : compareRevision tx none = { tx with phase := .finish .badRequest } :=
    if_pos other
  rw [applyMutation_compared fresh owner absent, compared]

theorem applyMutation_conflict {row : ItemRow} (found : store.rows tx.itemKey = some row)
    (other : tx.mutation.baseRevision ≠ row.revision) :
    applyMutation store tx =
      ((store.ensureVaultOwnership tx).recordMutationOutcome tx 409
          (.conflict tx.mutation.mutationId (toItemRecord tx.backend row) tx.mutation),
        .response 409 (.conflict tx.mutation.mutationId (toItemRecord tx.backend row) tx.mutation)) := by
  have compared : (compareRevision tx (some row)).phase = .recordMutationOutcome 409
      (.conflict tx.mutation.mutationId (toItemRecord tx.backend row) tx.mutation) :=
    congrArg Tx.phase (if_pos other)
  rw [applyMutation_compared fresh owner found, compared]

theorem applyMutation_accepted {existing : Option ItemRow}
    (current : store.rows tx.itemKey = existing)
    (based : tx.mutation.baseRevision = revisionOf existing) :
    let written := (store.ensureVaultOwnership tx).upsertItem
      { tx with item := existing, phase := .nextval }
    let body := .record (toItemRecord tx.backend written.2)
    applyMutation store tx = (written.1.recordMutationOutcome tx 201 body, .response 201 body) := by
  have compared : compareRevision tx existing = { tx with item := existing, phase := .nextval } :=
    if_neg (not_not.mpr based)
  rw [applyMutation_compared fresh owner current, compared]

end

theorem applyMutation_notOwner (fresh : store.outcomes tx.outcomeKey = none)
    (other : (store.ensureVaultOwnership tx).owners tx.vaultKey ≠ some tx.accountId) :
    applyMutation store tx = (store, .notFound) := by
  simp [applyMutation, fresh, other]

theorem applyMutation_unnumbered (store : Store) (tx : Tx) :
    applyUnnumbered store.unnumbered tx = applyUnnumbered store tx := by
  have owned := ensureVaultOwnership_unnumbered store tx
  unfold applyUnnumbered
  cases known : store.outcomes tx.outcomeKey with
  | some row =>
      have kept : store.unnumbered.outcomes tx.outcomeKey = some row := known
      rw [applyMutation_replay known, applyMutation_replay kept, unnumbered_unnumbered]
  | none =>
      have fresh : store.unnumbered.outcomes tx.outcomeKey = none := known
      by_cases owner : (store.ensureVaultOwnership tx).owners tx.vaultKey = some tx.accountId
      · have kept : (store.unnumbered.ensureVaultOwnership tx).owners tx.vaultKey =
            some tx.accountId := by rw [owned, ← owner]; rfl
        by_cases based : tx.mutation.baseRevision = revisionOf (store.rows tx.itemKey)
        · have based' : tx.mutation.baseRevision =
              revisionOf ((store.rows tx.itemKey).map ItemRow.unnumbered) := by
            rw [based]
            cases store.rows tx.itemKey <;> rfl
          have result := applyMutation_accepted known owner rfl based
          have result' := applyMutation_accepted fresh kept (unnumbered_rows store tx.itemKey) based'
          obtain ⟨tables, record⟩ := upsertItem_unnumbered (store.ensureVaultOwnership tx)
            { tx with item := store.rows tx.itemKey, phase := .nextval }
          dsimp only at result result' tables record
          rw [result, result', owned, ← recordMutationOutcome_unnumbered,
            ← recordMutationOutcome_unnumbered, tables, record]
        · cases current : store.rows tx.itemKey with
          | none =>
              have absent : store.unnumbered.rows tx.itemKey = none := by
                rw [unnumbered_rows, current]
                rfl
              rw [current] at based
              rw [applyMutation_strayEdit known owner current based,
                applyMutation_strayEdit fresh kept absent based, owned]
              dsimp only
              split <;> simp
          | some row =>
              have found : store.unnumbered.rows tx.itemKey = some row.unnumbered := by
                rw [unnumbered_rows, current]
                rfl
              rw [current] at based
              rw [applyMutation_conflict known owner current based,
                applyMutation_conflict fresh kept found based, owned,
                recordMutationOutcome_unnumbered, unnumbered_unnumbered]
              rfl
      · have kept : (store.unnumbered.ensureVaultOwnership tx).owners tx.vaultKey ≠
            some tx.accountId := by rw [owned]; exact owner
        rw [applyMutation_notOwner known owner, applyMutation_notOwner fresh kept,
          unnumbered_unnumbered]

end

end ZenPass.Sync
