import ZenPass.Sync.Sequential

set_option autoImplicit false

namespace ZenPass.Sync

open Wire ReadCommitted Transition

structure Database extends Store where
  keyed : ∀ key row, rows key = some row → row.key = key

def Database.server (database : Database) : Server where
  vaults := fun key => { committed := database.owners key }
  items := fun key => { committed := database.rows key }
  itemKeys := []
  outcomes := fun key => { committed := database.outcomes key }
  vaultChangeSequence := database.vaultChangeSequence
  mutationLocks := fun _ => none
  txs := fun _ => none
  settled := []

def Server.store (server : Server) : Store where
  owners := fun key => (server.vaults key).committed
  rows := server.rows
  outcomes := server.recordedOutcome
  vaultChangeSequence := server.vaultChangeSequence

@[simp] theorem Server.resume_opened (server : Server) (t : TxId) (tx : Tx) :
    (server.resume t tx).txs t = some tx := Function.update_self _ _ _

@[simp] theorem Server.releaseLocks_closed (server : Server) (t : TxId) :
    (server.releaseLocks t).txs t = none := Function.update_self _ _ _

/-- The vault row that the ownership check inserts. -/
def claim (store : Store) (tx : Tx) : Option Id :=
  if (store.owners tx.vaultKey).isSome then none else some tx.accountId

def Tx.publish (tx : Tx) (store : Store) (sequence : Nat) : Store where
  owners := match tx.vault with
    | some owner => Function.update store.owners tx.vaultKey (some owner)
    | none => store.owners
  rows := match tx.item with
    | some row => Function.update store.rows tx.itemKey (some row)
    | none => store.rows
  outcomes := match tx.recorded with
    | some row => Function.update store.outcomes tx.outcomeKey (some row)
    | none => store.outcomes
  vaultChangeSequence := sequence

/-- The only open transaction, on tables that are committed as in `store`. -/
structure Serving (store : Store) (tx : Tx) (server : Server) : Prop where
  locked : Locked server
  txs : server.txs = Function.update (fun _ => none) 0 (some tx)
  owners : (fun key => (server.vaults key).committed) = store.owners
  rows : server.rows = store.rows
  outcomes : server.recordedOutcome = store.outcomes
  settled : server.settled = []

/-- How far the transaction has come with its request. -/
def Follows (store : Store) (request tx : Tx) (sequence : Nat) : Prop :=
  let owned := { request with vault := claim store request, phase := .getItemForUpdate }
  let compared := compareRevision owned (store.rows request.itemKey)
  match tx.phase with
  | .findReplay => tx = request ∧ sequence = store.vaultChangeSequence
  | .acquireMutationLock | .findMutationOutcome | .insertVault =>
      tx = { request with phase := tx.phase } ∧ sequence = store.vaultChangeSequence ∧
        store.outcomes request.outcomeKey = none
  | .selectVault =>
      tx = { owned with phase := .selectVault } ∧ sequence = store.vaultChangeSequence ∧
        store.outcomes request.outcomeKey = none
  | .getItemForUpdate =>
      tx = owned ∧ sequence = store.vaultChangeSequence ∧
        store.outcomes request.outcomeKey = none ∧
        (store.ensureVaultOwnership request).owners request.vaultKey = some request.accountId
  | .nextval =>
      tx = compared ∧ sequence = store.vaultChangeSequence ∧
        store.outcomes request.outcomeKey = none ∧
        (store.ensureVaultOwnership request).owners request.vaultKey = some request.accountId
  | .upsertItem proposed =>
      tx = { compared with phase := .upsertItem proposed } ∧ compared.phase = .nextval ∧
        proposed = store.vaultChangeSequence + 1 ∧ sequence = store.vaultChangeSequence + 1 ∧
        store.outcomes request.outcomeKey = none ∧
        (store.ensureVaultOwnership request).owners request.vaultKey = some request.accountId
  | .recordMutationOutcome statusCode body =>
      SameRequest request tx ∧ store.outcomes request.outcomeKey = none ∧
      applyMutation store request =
        (Tx.publish { tx with recorded := some ⟨tx.mutation.vaultId, statusCode, body⟩ } store
          sequence, .response statusCode body)
  | .finish outcome =>
      SameRequest request tx ∧
        (commits tx.backend outcome = false → sequence = store.vaultChangeSequence) ∧
        applyMutation store request =
          (if commits tx.backend outcome then tx.publish store sequence else store, outcome)

structure Ended (result : Store × ApplyOutcome) (request : Tx) (server : Server) : Prop where
  txs : server.txs = fun _ => none
  store : server.store = result.1
  settled : ∃ fresh, server.settled = [⟨request.accountId, request.mutation, result.2, fresh⟩]

section

variable {store : Store} {request tx tx' : Tx} {server server' next : Server}

theorem Serving.opened (serving : Serving store tx server) : server.txs 0 = some tx := by
  rw [serving.txs, Function.update_self]

theorem Serving.only (serving : Serving store tx server) (t : TxId) (other : Tx)
    (opened : server.txs t = some other) : t = 0 := by
  by_contra different
  rw [serving.txs, Function.update_of_ne different] at opened
  cases opened

theorem Serving.resumes (serving : Serving store tx server) (txs : server'.txs = server.txs)
    (owners : (fun key => (server'.vaults key).committed) = fun key => (server.vaults key).committed)
    (rows : server'.rows = server.rows) (outcomes : server'.recordedOutcome = server.recordedOutcome)
    (settled : server'.settled = server.settled) (locked : Locked (server'.resume 0 tx')) :
    Serving store tx' (server'.resume 0 tx') where
  locked := locked
  txs := by
    change Function.update server'.txs 0 (some tx') = _
    rw [txs, serving.txs, Function.update_idem]
  owners := owners.trans serving.owners
  rows := rows.trans serving.rows
  outcomes := outcomes.trans serving.outcomes
  settled := settled.trans serving.settled

theorem Serving.publish (serving : Serving store tx server) :
    (server.commit 0).store = tx.publish store server.vaultChangeSequence := by
  have owners : (fun key => ((server.commit 0).vaults key).committed) =
      (tx.publish store server.vaultChangeSequence).owners := by
    funext key
    change (server.vaults.commit 0 key).committed = _
    rw [serving.locked.vaults.commit_committed serving.opened]
    have before : (server.vaults key).committed = store.owners key := congrFun serving.owners key
    cases held : tx.vault with
    | none => simp [Tx.publish, held, before]
    | some owner =>
        by_cases same : tx.vaultKey = key
        · subst same
          simp [Tx.publish, held]
        · simp [Tx.publish, held, same, Function.update_of_ne (Ne.symm same), before]
  have rows := serving.locked.commit_rows serving.opened
  have outcomes := serving.locked.commit_outcomes serving.opened
  rw [serving.rows] at rows
  rw [serving.outcomes] at outcomes
  rw [Server.store, owners, rows, outcomes]
  rfl

theorem Serving.rollback (serving : Serving store tx server) :
    (server.rollback 0).store =
      { store with vaultChangeSequence := server.vaultChangeSequence } := by
  have owners : (fun key => ((server.rollback 0).vaults key).committed) = store.owners := by
    rw [← serving.owners]
    exact funext fun key => Table.abort_committed _ _ _
  rw [Server.store, owners, server.rollback_rows, server.rollback_outcomes, serving.rows,
    serving.outcomes]
  rfl

theorem Serving.ends (serving : Serving store tx server) {outcome : ApplyOutcome}
    (follows : Follows store request tx server.vaultChangeSequence)
    (phase : tx.phase = .finish outcome) :
    Ended (applyMutation store request) request
      (((if commits tx.backend outcome then server.commit 0 else server.rollback 0).settle tx
        outcome).releaseLocks 0) := by
  unfold Follows at follows
  rw [phase] at follows
  obtain ⟨same, unwound, result⟩ := follows
  have settled : server.settled ++ [⟨tx.accountId, tx.mutation, outcome, tx.recorded.isSome⟩] =
      [⟨request.accountId, request.mutation, (applyMutation store request).2,
        tx.recorded.isSome⟩] := by
    rw [serving.settled, same.accountId, same.mutation, result]
    rfl
  have closed : Function.update server.txs 0 none = fun _ => none := by
    rw [serving.txs, Function.update_idem]
    exact Function.update_eq_self 0 _
  by_cases commit : commits tx.backend outcome = true
  · rw [if_pos commit] at result ⊢
    refine ⟨closed, ?_, tx.recorded.isSome, settled⟩
    rw [result]
    exact serving.publish
  · rw [if_neg commit] at result ⊢
    refine ⟨closed, ?_, tx.recorded.isSome, settled⟩
    have there := serving.rollback
    rw [unwound (by simpa using commit)] at there
    rw [result]
    exact there

structure Tx.Arrived (request : Tx) : Prop where
  phase : request.phase = .findReplay
  vault : request.vault = none
  item : request.item = none
  recorded : request.recorded = none

theorem compareRevision_owned (request : Tx) (vault : Option Id) (phase : Phase)
    (existing : Option ItemRow) :
    compareRevision { request with vault := vault, phase := phase } existing =
      { compareRevision request existing with vault := vault } := by
  unfold compareRevision
  dsimp only
  split
  · cases existing <;> rfl
  · rfl

theorem compareRevision_nextval {existing : Option ItemRow}
    (next : (compareRevision request existing).phase = .nextval) :
    compareRevision request existing = { request with item := existing, phase := .nextval } := by
  rcases compareRevision_cases request existing with ⟨-, compared⟩ | ⟨row, body, -, compared⟩
    | ⟨-, compared⟩
  · simp [compared] at next
  · simp [compared] at next
  · exact compared

theorem ensureVaultOwnership_owner (store : Store) (request : Tx) :
    (store.ensureVaultOwnership request).owners request.vaultKey =
      ((claim store request).map some).getD (store.owners request.vaultKey) := by
  unfold Store.ensureVaultOwnership claim
  split
  · rfl
  · simp

theorem ensureVaultOwnership_kept (store : Store) (request : Tx) :
    { store.ensureVaultOwnership request with
      rows := store.rows
      outcomes := store.outcomes
      vaultChangeSequence := store.vaultChangeSequence } = store.ensureVaultOwnership request := by
  unfold Store.ensureVaultOwnership
  split <;> rfl

theorem publish_owned (same : SameRequest request tx) (vault : tx.vault = claim store request)
    (sequence : Nat) :
    tx.publish store sequence =
      { store.ensureVaultOwnership request with
        rows := match tx.item with
          | some row => Function.update store.rows request.itemKey (some row)
          | none => store.rows
        outcomes := match tx.recorded with
          | some row => Function.update store.outcomes request.outcomeKey (some row)
          | none => store.outcomes
        vaultChangeSequence := sequence } := by
  have owners : (match tx.vault with
      | some owner => Function.update store.owners tx.vaultKey (some owner)
      | none => store.owners) = (store.ensureVaultOwnership request).owners := by
    rw [vault, same.vaultKey]
    unfold claim Store.ensureVaultOwnership
    by_cases present : (store.owners request.vaultKey).isSome = true
    · simp [present]
    · simp [present]
  unfold Tx.publish
  rw [owners, same.itemKey, same.outcomeKey]

theorem publish_unwritten (same : SameRequest request tx) (vault : tx.vault = claim store request)
    (item : tx.item = none) (recorded : tx.recorded = none) :
    tx.publish store store.vaultChangeSequence = store.ensureVaultOwnership request := by
  rw [publish_owned same vault, item, recorded]
  exact ensureVaultOwnership_kept store request

theorem publish_conflict {row : ItemRow} {statusCode : Nat} {body : ResponseBody}
    (same : SameRequest request tx) (vault : tx.vault = claim store request)
    (item : tx.item = some row) (current : store.rows request.itemKey = some row)
    (recorded : tx.recorded = some ⟨request.mutation.vaultId, statusCode, body⟩) :
    tx.publish store store.vaultChangeSequence =
      (store.ensureVaultOwnership request).recordMutationOutcome request statusCode body := by
  have kept : Function.update store.rows request.itemKey (some row) = store.rows := by
    rw [← current, Function.update_eq_self]
  rw [publish_owned same vault, item, recorded]
  simp only [kept, Store.recordMutationOutcome, ensureVaultOwnership_rows,
    ensureVaultOwnership_outcomes, ensureVaultOwnership_sequence]

theorem publish_written {row : ItemRow} {statusCode : Nat} {body : ResponseBody}
    (same : SameRequest request tx) (vault : tx.vault = claim store request)
    (item : tx.item = some row)
    (recorded : tx.recorded = some ⟨request.mutation.vaultId, statusCode, body⟩) (sequence : Nat) :
    tx.publish store sequence =
      Store.recordMutationOutcome { store.ensureVaultOwnership request with
        rows := Function.update store.rows request.itemKey (some row)
        vaultChangeSequence := sequence } request statusCode body := by
  rw [publish_owned same vault, item, recorded]
  simp only [Store.recordMutationOutcome, ensureVaultOwnership_outcomes]

theorem Serving.vault_view (serving : Serving store tx server) (request : Tx) (same : SameRequest request tx)
    (vault : tx.vault = claim store request) :
    (server.vaults tx.vaultKey).view 0 =
      (store.ensureVaultOwnership request).owners request.vaultKey := by
  have committed : (server.vaults tx.vaultKey).committed = store.owners tx.vaultKey :=
    congrFun serving.owners tx.vaultKey
  rw [serving.locked.vaults.view serving.opened, vault, committed, same.vaultKey,
    ensureVaultOwnership_owner]

theorem Serving.outcome_view (serving : Serving store tx server) (request : Tx) (same : SameRequest request tx)
    (unrecorded : tx.recorded = none) :
    (server.outcomes tx.outcomeKey).view 0 = store.outcomes request.outcomeKey := by
  have committed : (server.outcomes tx.outcomeKey).committed = store.outcomes tx.outcomeKey :=
    congrFun serving.outcomes tx.outcomeKey
  rw [serving.locked.outcomes.view serving.opened, unrecorded, ← same.outcomeKey]
  exact committed

section Compare

variable {existing : Option ItemRow}

theorem applyMutation_compared (fresh : store.outcomes request.outcomeKey = none)
    (owner : (store.ensureVaultOwnership request).owners request.vaultKey = some request.accountId)
    (current : store.rows request.itemKey = existing) :
    applyMutation store request =
      match (compareRevision request existing).phase with
      | .recordMutationOutcome statusCode body =>
          ((store.ensureVaultOwnership request).recordMutationOutcome request statusCode body,
            .response statusCode body)
      | .nextval =>
          let written := (store.ensureVaultOwnership request).upsertItem
            (compareRevision request existing)
          let body := .record (toItemRecord request.backend written.2)
          (written.1.recordMutationOutcome request 201 body, .response 201 body)
      | _ =>
          (if commits request.backend .badRequest then store.ensureVaultOwnership request else store,
            .badRequest) := by
  subst current
  unfold applyMutation
  rw [fresh]
  exact if_neg (not_not.mpr owner)

theorem follows_compareRevision (arrived : request.Arrived)
    (fresh : store.outcomes request.outcomeKey = none)
    (owner : (store.ensureVaultOwnership request).owners request.vaultKey = some request.accountId)
    (current : store.rows request.itemKey = existing) :
    Follows store request
      (compareRevision { request with vault := claim store request, phase := .getItemForUpdate }
        existing) store.vaultChangeSequence := by
  have result := applyMutation_compared fresh owner current
  have owned := compareRevision_owned request (claim store request) .getItemForUpdate existing
  rcases compareRevision_cases request existing with ⟨absent, compared⟩ | ⟨row, body, found, compared⟩
    | ⟨based, compared⟩
  · -- No row, and a base revision other than zero.
    rw [owned, compared]
    rw [compared] at result
    refine ⟨⟨rfl, rfl, rfl, rfl⟩, fun _ => rfl, result.trans (Prod.ext ?_ rfl)⟩
    dsimp only
    split
    · symm
      apply publish_unwritten
      · exact ⟨rfl, rfl, rfl, rfl⟩
      · rfl
      · exact arrived.item
      · exact arrived.recorded
    · rfl
  · rw [owned, compared]
    rw [compared] at result
    refine ⟨⟨rfl, rfl, rfl, rfl⟩, fresh, result.trans (Prod.ext ?_ rfl)⟩
    symm
    apply publish_conflict
    · exact ⟨rfl, rfl, rfl, rfl⟩
    · rfl
    · rfl
    · exact current.trans found
    · rfl
  · have next : (compareRevision { request with
        vault := claim store request, phase := .getItemForUpdate } existing).phase = .nextval := by
      rw [owned, compared]
    unfold Follows
    rw [next]
    exact ⟨by rw [current], rfl, fresh, owner⟩

theorem follows_written (fresh : store.outcomes request.outcomeKey = none)
    (owner : (store.ensureVaultOwnership request).owners request.vaultKey = some request.accountId)
    (current : store.rows request.itemKey = existing)
    (next : (compareRevision request existing).phase = .nextval) {row : ItemRow} {sequence : Nat}
    (upserted : (store.ensureVaultOwnership request).upsertItem (compareRevision request existing) =
      ({ store.ensureVaultOwnership request with
          rows := Function.update store.rows request.itemKey (some row)
          vaultChangeSequence := sequence }, row))
    (same : SameRequest request tx) (vault : tx.vault = claim store request) :
    Follows store request (tx.written row) sequence := by
  have result := applyMutation_compared fresh owner current
  rw [next] at result
  simp only [upserted] at result
  refine ⟨⟨same.backend, same.accountId, same.mutation, same.ciphertext⟩, fresh, ?_⟩
  rw [result, ← same.backend]
  refine Prod.ext ?_ rfl
  symm
  apply publish_written
  · exact ⟨same.backend, same.accountId, same.mutation, same.ciphertext⟩
  · exact vault
  · rfl
  · change some _ = some _
    rw [← same.mutation]
    rfl

end Compare

theorem follows_refused (fresh : store.outcomes request.outcomeKey = none)
    (other : (store.ensureVaultOwnership request).owners request.vaultKey ≠ some request.accountId)
    {sequence : Nat} (drawn : sequence = store.vaultChangeSequence) (same : SameRequest request tx)
    (vault : tx.vault = claim store request) (item : tx.item = none) (recorded : tx.recorded = none) :
    Follows store request { tx with phase := .finish .notFound } sequence := by
  -- A vault row that this transaction inserts is its own.
  have untouched : store.ensureVaultOwnership request = store := by
    rw [ensureVaultOwnership_owner] at other
    unfold claim at other
    unfold Store.ensureVaultOwnership
    split at other
    · rw [if_pos ‹_›]
    · exact absurd rfl other
  have result : applyMutation store request = (store, .notFound) := by
    rw [untouched] at other
    simp [applyMutation, fresh, untouched, other]
  have published : Tx.publish { tx with phase := .finish .notFound } store sequence = store := by
    rw [drawn]
    refine Eq.trans ?_ untouched
    apply publish_unwritten
    · exact ⟨same.backend, same.accountId, same.mutation, same.ciphertext⟩
    · exact vault
    · exact item
    · exact recorded
  refine ⟨⟨same.backend, same.accountId, same.mutation, same.ciphertext⟩, fun _ => drawn, ?_⟩
  rw [result, published, ite_self]

theorem upsertItem_owned_none (store : Store) (request : Tx) :
    (store.ensureVaultOwnership request).upsertItem
        { request with item := none, phase := .nextval } =
      ({ store.ensureVaultOwnership request with
          rows := Function.update store.rows request.itemKey
            (some (insertedRow { request with item := none } (store.vaultChangeSequence + 1)))
          vaultChangeSequence := store.vaultChangeSequence + 1 },
        insertedRow { request with item := none } (store.vaultChangeSequence + 1)) := by
  unfold Store.upsertItem
  simp only [ensureVaultOwnership_rows, ensureVaultOwnership_sequence]
  rfl

theorem upsertItem_owned_some (store : Store) (request : Tx) (row : ItemRow) :
    (store.ensureVaultOwnership request).upsertItem
        { request with item := some row, phase := .nextval } =
      ({ store.ensureVaultOwnership request with
          rows := Function.update store.rows request.itemKey (some
            (updatedRow { request with item := some row } row (store.vaultChangeSequence + 2)))
          vaultChangeSequence := store.vaultChangeSequence + 2 },
        updatedRow { request with item := some row } row (store.vaultChangeSequence + 2)) := by
  unfold Store.upsertItem
  simp only [ensureVaultOwnership_rows, ensureVaultOwnership_sequence]
  rfl

theorem Serving.replayed (serving : Serving store tx server)
    (follows : Follows store request tx server.vaultChangeSequence) (phase : tx.phase = .findReplay)
    {row : MutationOutcome} (found : store.outcomes tx.outcomeKey = some row) :
    Ended (applyMutation store request) request
      ((server.settle tx (.response row.statusCode row.responseBody)).releaseLocks 0) := by
  unfold Follows at follows
  rw [phase] at follows
  obtain ⟨rfl, sequence⟩ := follows
  rw [applyMutation_replay found]
  refine ⟨?_, ?_, tx.recorded.isSome, ?_⟩
  · change Function.update server.txs 0 none = _
    rw [serving.txs, Function.update_idem]
    exact Function.update_eq_self 0 _
  · change server.store = store
    rw [Server.store, serving.owners, serving.rows, serving.outcomes, sequence]
  · change server.settled ++ [_] = _
    rw [serving.settled]
    rfl

theorem Serving.findMutationOutcome (serving : Serving store tx server) (arrived : request.Arrived)
    (follows : Follows store request tx server.vaultChangeSequence)
    (phase : tx.phase = .findMutationOutcome) : (server.outcomes tx.outcomeKey).view 0 = none := by
  unfold Follows at follows
  rw [phase] at follows
  obtain ⟨rfl, -, fresh⟩ := follows
  rw [serving.outcome_view request ⟨rfl, rfl, rfl, rfl⟩ arrived.recorded]
  exact fresh

theorem Serving.recordMutationOutcome (serving : Serving store tx server)
    (follows : Follows store request tx server.vaultChangeSequence) {statusCode : Nat}
    {body : ResponseBody} (phase : tx.phase = .recordMutationOutcome statusCode body) :
    (server.outcomes tx.outcomeKey).view 0 = none := by
  unfold Follows at follows
  rw [phase] at follows
  obtain ⟨same, fresh, -⟩ := follows
  have unrecorded : tx.recorded = none := by
    have holds := serving.locked.holds 0 tx serving.opened
    unfold Tx.Holds at holds
    rw [phase] at holds
    exact holds
  rw [serving.outcome_view request same unrecorded]
  exact fresh

section Follows

variable {sequence : Nat} (follows : Follows store request tx sequence)

include follows

theorem follows_selectVault (phase : tx.phase = .selectVault) :
    SameRequest request tx ∧ tx.vault = claim store request := by
  unfold Follows at follows
  rw [phase] at follows
  obtain ⟨rfl, -⟩ := follows
  exact ⟨⟨rfl, rfl, rfl, rfl⟩, rfl⟩

theorem follows_noReplay (phase : tx.phase = .findReplay)
    (absent : store.outcomes tx.outcomeKey = none) :
    Follows store request { tx with phase := .acquireMutationLock } sequence := by
  unfold Follows at follows
  rw [phase] at follows
  obtain ⟨rfl, sequence⟩ := follows
  exact ⟨rfl, sequence, absent⟩

theorem follows_lock (phase : tx.phase = .acquireMutationLock) :
    Follows store request { tx with phase := .findMutationOutcome } sequence := by
  unfold Follows at follows
  rw [phase] at follows
  obtain ⟨rfl, rest⟩ := follows
  exact ⟨rfl, rest⟩

theorem follows_noOutcome (phase : tx.phase = .findMutationOutcome) :
    Follows store request { tx with phase := .insertVault } sequence := by
  unfold Follows at follows
  rw [phase] at follows
  obtain ⟨rfl, rest⟩ := follows
  exact ⟨rfl, rest⟩

theorem follows_vaultExists (arrived : request.Arrived) (phase : tx.phase = .insertVault)
    (there : (store.owners tx.vaultKey).isSome = true) :
    Follows store request { tx with phase := .selectVault } sequence := by
  unfold Follows at follows
  rw [phase] at follows
  obtain ⟨rfl, rest⟩ := follows
  have unclaimed : claim store request = none := if_pos there
  refine ⟨?_, rest⟩
  rw [unclaimed, ← arrived.vault]

theorem follows_vaultInserted (phase : tx.phase = .insertVault)
    (missing : store.owners tx.vaultKey = none) :
    Follows store request { tx with vault := some tx.accountId, phase := .selectVault } sequence := by
  unfold Follows at follows
  rw [phase] at follows
  obtain ⟨rfl, rest⟩ := follows
  have claimed : claim store request = some request.accountId := by
    refine if_neg ?_
    rw [show store.owners request.vaultKey = none from missing]
    exact Bool.false_ne_true
  refine ⟨?_, rest⟩
  rw [claimed]

theorem follows_owner (phase : tx.phase = .selectVault)
    (owner : (store.ensureVaultOwnership request).owners request.vaultKey = some tx.accountId) :
    Follows store request { tx with phase := .getItemForUpdate } sequence := by
  unfold Follows at follows
  rw [phase] at follows
  obtain ⟨rfl, sequence, fresh⟩ := follows
  exact ⟨rfl, sequence, fresh, owner⟩

theorem follows_notOwner (arrived : request.Arrived) (phase : tx.phase = .selectVault)
    (other : (store.ensureVaultOwnership request).owners request.vaultKey ≠ some tx.accountId) :
    Follows store request { tx with phase := .finish .notFound } sequence := by
  unfold Follows at follows
  rw [phase] at follows
  obtain ⟨rfl, drawn, fresh⟩ := follows
  apply follows_refused fresh other drawn
  · exact ⟨rfl, rfl, rfl, rfl⟩
  · rfl
  · exact arrived.item
  · exact arrived.recorded

theorem follows_getItemForUpdate (arrived : request.Arrived) (phase : tx.phase = .getItemForUpdate)
    {existing : Option ItemRow} (current : store.rows tx.itemKey = existing) :
    Follows store request (compareRevision tx existing) sequence := by
  unfold Follows at follows
  rw [phase] at follows
  obtain ⟨rfl, rfl, fresh, owner⟩ := follows
  exact follows_compareRevision arrived fresh owner current

theorem follows_drawn (phase : tx.phase = .nextval) :
    Follows store request { tx with phase := .upsertItem (sequence + 1) } (sequence + 1) := by
  have before := phase
  unfold Follows at follows
  rw [phase] at follows
  obtain ⟨rfl, rfl, rest⟩ := follows
  exact ⟨rfl, before, rfl, rfl, rest⟩

theorem follows_upsertItem {proposed : Nat} (phase : tx.phase = .upsertItem proposed) :
    tx = { request with
        item := store.rows request.itemKey
        vault := claim store request
        phase := .upsertItem proposed } ∧
      (compareRevision request (store.rows request.itemKey)).phase = .nextval ∧
      proposed = store.vaultChangeSequence + 1 ∧ sequence = store.vaultChangeSequence + 1 ∧
      store.outcomes request.outcomeKey = none ∧
      (store.ensureVaultOwnership request).owners request.vaultKey = some request.accountId := by
  unfold Follows at follows
  rw [phase] at follows
  obtain ⟨written, next, rest⟩ := follows
  rw [compareRevision_owned] at written next
  have nextval : (compareRevision request (store.rows request.itemKey)).phase = .nextval := next
  rw [compareRevision_nextval nextval] at written
  exact ⟨written, nextval, rest⟩

theorem follows_inserted {proposed : Nat} (phase : tx.phase = .upsertItem proposed)
    (absent : store.rows tx.itemKey = none) :
    Follows store request (tx.written (insertedRow tx proposed)) sequence := by
  obtain ⟨rfl, next, rfl, rfl, fresh, owner⟩ := follows_upsertItem follows phase
  have current : store.rows request.itemKey = none := absent
  rw [current] at next ⊢
  apply follows_written fresh owner current next
  · rw [compareRevision_nextval next]
    exact upsertItem_owned_none store request
  · exact ⟨rfl, rfl, rfl, rfl⟩
  · rfl

theorem follows_updated {proposed : Nat} (phase : tx.phase = .upsertItem proposed) {row : ItemRow}
    (found : store.rows tx.itemKey = some row) :
    Follows store request (tx.written (updatedRow tx row (sequence + 1))) (sequence + 1) := by
  obtain ⟨rfl, next, rfl, rfl, fresh, owner⟩ := follows_upsertItem follows phase
  have current : store.rows request.itemKey = some row := found
  rw [current] at next ⊢
  apply follows_written fresh owner current next
  · rw [compareRevision_nextval next]
    exact upsertItem_owned_some store request row
  · exact ⟨rfl, rfl, rfl, rfl⟩
  · rfl

theorem follows_recorded {statusCode : Nat} {body : ResponseBody}
    (phase : tx.phase = .recordMutationOutcome statusCode body) :
    Follows store request
      { tx with
        recorded := some ⟨tx.mutation.vaultId, statusCode, body⟩
        phase := .finish (.response statusCode body) } sequence := by
  unfold Follows at follows
  rw [phase] at follows
  obtain ⟨same, fresh, result⟩ := follows
  refine ⟨⟨same.backend, same.accountId, same.mutation, same.ciphertext⟩, ?_, result⟩
  intro contra
  cases contra

end Follows

theorem Serving.advances (serving : Serving store tx server) (arrived : request.Arrived)
    (follows : Follows store request tx server.vaultChangeSequence)
    (executed : Executed server 0 tx next) :
    (∃ tx', Serving store tx' next ∧ Follows store request tx' next.vaultChangeSequence) ∨
      Ended (applyMutation store request) request next := by
  have locked := serving.locked.statement serving.opened executed
  have outcomes : server.recordedOutcome tx.outcomeKey = store.outcomes tx.outcomeKey := by
    rw [serving.outcomes]
  have owners : (server.vaults tx.vaultKey).committed = store.owners tx.vaultKey :=
    congrFun serving.owners tx.vaultKey
  have rows : server.rows tx.itemKey = store.rows tx.itemKey := by rw [serving.rows]
  have held {K V : Type} [DecidableEq K] (table : Table K TxId V) (key : K) (version : Option V) :
      (fun other => (table.hold key 0 version other).committed) = fun other =>
        (table other).committed := funext fun other => Table.hold_committed _ _ _ _ _
  cases executed with
  | replay row phase found => exact .inr (serving.replayed follows phase (outcomes ▸ found))
  | noReplay phase absent =>
      exact .inl ⟨_, serving.resumes rfl rfl rfl rfl rfl locked,
        follows_noReplay follows phase (outcomes ▸ absent)⟩
  | lock key phase =>
      exact .inl ⟨_, serving.resumes rfl rfl rfl rfl rfl locked, follows_lock follows phase⟩
  | outcome row phase found =>
      -- The outcome would have been found by the first lookup.
      cases (serving.findMutationOutcome arrived follows phase).symm.trans found
  | noOutcome phase absent =>
      exact .inl ⟨_, serving.resumes rfl rfl rfl rfl rfl locked, follows_noOutcome follows phase⟩
  | vaultExists phase present =>
      exact .inl ⟨_, serving.resumes rfl rfl rfl rfl rfl locked,
        follows_vaultExists follows arrived phase (owners ▸ present)⟩
  | vaultInserted phase absent available =>
      exact .inl ⟨_, serving.resumes rfl (held _ _ _) rfl rfl rfl locked,
        follows_vaultInserted follows phase (owners.symm.trans absent)⟩
  | owner phase owned =>
      obtain ⟨same, claimed⟩ := follows_selectVault follows phase
      rw [serving.vault_view request same claimed] at owned
      exact .inl ⟨_, serving.resumes rfl rfl rfl rfl rfl locked, follows_owner follows phase owned⟩
  | notOwner phase other =>
      obtain ⟨same, claimed⟩ := follows_selectVault follows phase
      rw [serving.vault_view request same claimed] at other
      exact .inl ⟨_, serving.resumes rfl rfl rfl rfl rfl locked,
        follows_notOwner follows arrived phase other⟩
  | noItem phase absent =>
      exact .inl ⟨_, serving.resumes rfl rfl rfl rfl rfl locked,
        follows_getItemForUpdate follows arrived phase (rows.symm.trans absent)⟩
  | item row phase found available =>
      exact .inl ⟨_, serving.resumes rfl rfl (held _ _ _) rfl rfl locked,
        follows_getItemForUpdate follows arrived phase (rows.symm.trans found)⟩
  | drawn phase =>
      exact .inl ⟨_, serving.resumes rfl rfl rfl rfl rfl locked, follows_drawn follows phase⟩
  | inserted proposed phase available absent =>
      exact .inl ⟨_, serving.resumes rfl rfl (held _ _ _) rfl rfl locked,
        follows_inserted follows phase (rows.symm.trans absent)⟩
  | updated proposed row phase available found =>
      exact .inl ⟨_, serving.resumes rfl rfl (held _ _ _) rfl rfl locked,
        follows_updated follows phase (rows.symm.trans found)⟩
  | duplicate statusCode body row phase found =>
      cases (serving.recordMutationOutcome follows phase).symm.trans found
  | recorded statusCode body phase available absent =>
      exact .inl ⟨_, serving.resumes rfl rfl rfl (held _ _ _) rfl locked,
        follows_recorded follows phase⟩
  | finished outcome phase => exact .inr (serving.ends follows phase)

def Phase.remaining : Phase → Nat
  | .findReplay => 9
  | .acquireMutationLock => 8
  | .findMutationOutcome => 7
  | .insertVault => 6
  | .selectVault => 5
  | .getItemForUpdate => 4
  | .nextval => 3
  | .upsertItem _ => 2
  | .recordMutationOutcome _ _ => 1
  | .finish _ => 0

theorem remaining_compareRevision (tx : Tx) (existing : Option ItemRow) :
    (compareRevision tx existing).phase.remaining < 4 := by
  rcases compareRevision_cases tx existing with ⟨-, compared⟩ | ⟨row, body, -, compared⟩
    | ⟨-, compared⟩ <;> rw [compared] <;> simp only [Phase.remaining] <;> omega

theorem Executed.remaining {t : TxId} (executed : Executed server t tx next)
    (goesOn : next.txs t = some tx') : tx'.phase.remaining < tx.phase.remaining := by
  have resumed : ∀ {other : Server} {moved : Tx}, (other.resume t moved).txs t = some tx' →
      tx' = moved := by
    intro other moved same
    rw [Server.resume_opened, Option.some.injEq] at same
    exact same.symm
  have ended : ∀ {other : Server}, (other.releaseLocks t).txs t ≠ some tx' := by simp
  cases executed with
  | replay | finished => exact absurd goesOn ended
  | noItem phase | item row phase =>
      rw [resumed goesOn, phase]
      exact remaining_compareRevision tx _
  | noReplay phase | lock key phase | outcome row phase | noOutcome phase | vaultExists phase
  | vaultInserted phase | owner phase | notOwner phase | drawn phase | inserted proposed phase
  | updated proposed row phase | duplicate statusCode body row phase
  | recorded statusCode body phase =>
      rw [resumed goesOn, phase]
      simp only [Tx.written, Phase.remaining]
      omega

variable (hashtext : String → Int)

theorem Serving.enabled (serving : Serving store tx server) (past : tx.phase.remaining < 8) :
    ∃ next, statement hashtext server 0 tx = some next := by
  have vaults := serving.locked.vaults.available_of_only serving.only tx.vaultKey
  have items := serving.locked.items.available_of_only serving.only tx.itemKey
  have outcomes := serving.locked.outcomes.available_of_only serving.only tx.outcomeKey
  unfold statement
  cases phase : tx.phase with
  | findReplay | acquireMutationLock =>
      rw [phase] at past
      exact absurd past (by decide)
  | findMutationOutcome | selectVault =>
      dsimp only
      split <;> exact ⟨_, rfl⟩
  | insertVault =>
      simp only [vaults, if_true]
      split <;> exact ⟨_, rfl⟩
  | getItemForUpdate | upsertItem proposed | recordMutationOutcome statusCode body =>
      simp only [items, outcomes, if_true]
      split <;> exact ⟨_, rfl⟩
  | nextval | finish outcome => exact ⟨_, rfl⟩

theorem Serving.completes (arrived : request.Arrived) (serving : Serving store tx server)
    (follows : Follows store request tx server.vaultChangeSequence)
    (past : tx.phase.remaining < 8) :
    ∃ count final, run (step hashtext) server (List.replicate count (.statement 0)) = some final ∧
      Ended (applyMutation store request) request final := by
  induction rank : tx.phase.remaining using Nat.strong_induction_on generalizing tx server with
  | _ rank ih =>
      obtain ⟨next, executed⟩ := serving.enabled hashtext past
      have stepped : step hashtext server (.statement 0) = some next := by
        simp [step, serving.opened, executed]
      have inversion := statement_cases executed
      rcases serving.advances arrived follows inversion with ⟨tx', there, goesOn⟩ | ended
      · have less := inversion.remaining there.opened
        obtain ⟨count, final, ran, done⟩ := ih tx'.phase.remaining (by omega) there goesOn
          (by omega) rfl
        refine ⟨count + 1, final, ?_, done⟩
        rw [List.replicate_succ, run_cons, stepped]
        exact ran
      · refine ⟨1, next, ?_, ended⟩
        simp [run_cons, stepped]

theorem locked_database (database : Database) : Locked database.server := by
  constructor
  · intro key t version
    simp [Database.server]
  · intro key t version
    simp [Database.server]
  · intro key t version
    simp [Database.server]
  · intro t tx opened
    cases opened
  · exact database.keyed
  · intro t tx opened
    cases opened

theorem postItem_arrived {backend : Backend} {accountId vaultId : Id} {mutation : Mutation}
    {now : Timestamp} (checked : postItem backend accountId vaultId mutation now = some request) :
    request.Arrived := by
  obtain ⟨-, phase, vault, item, recorded⟩ := postItem_correct checked
  exact ⟨phase, vault, item, recorded⟩

theorem Database.serving (database : Database) (arrived : request.Arrived) :
    Serving database.toStore request (database.server.resume 0 request) where
  locked := by
    refine (locked_database database).starts rfl arrived.vault arrived.item arrived.recorded ?_
    unfold Tx.Holds
    rw [arrived.phase]
    exact ⟨arrived.vault, arrived.item, arrived.recorded⟩
  txs := rfl
  owners := rfl
  rows := rfl
  outcomes := rfl
  settled := rfl

theorem Database.follows (database : Database) (arrived : request.Arrived) :
    Follows database.toStore request request database.vaultChangeSequence := by
  unfold Follows
  rw [arrived.phase]
  exact ⟨rfl, rfl⟩

theorem acquireMutationLock_free {t : TxId} (phase : tx.phase = .acquireMutationLock)
    (free : server.mutationLocks (mutationLockKey hashtext tx) = none) :
    ∃ locked, statement hashtext server t tx = some locked ∧
      locked.txs t = some { tx with phase := .findMutationOutcome } := by
  simp [statement, phase, free]

theorem Database.completes (database : Database) (arrived : request.Arrived) :
    ∃ count final, run (step hashtext) (database.server.resume 0 request)
        (List.replicate count (.statement 0)) = some final ∧
      Ended (applyMutation database.toStore request) request final := by
  have serving := database.serving arrived
  have follows := database.follows arrived
  -- The fast path, the lock that nothing else holds, and then the transaction.
  have looked : step hashtext (database.server.resume 0 request) (.statement 0) =
      statement hashtext (database.server.resume 0 request) 0 request := by
    rw [step, serving.opened]
    rfl
  unfold statement at looked
  rw [arrived.phase] at looked
  dsimp only at looked
  split at looked
  · have executed := looked
    rw [step, serving.opened] at executed
    rcases serving.advances arrived follows (statement_cases executed) with ⟨tx', there, -⟩ | ended
    · exact absurd there.opened (by simp [Server.releaseLocks])
    · exact ⟨1, _, by simp only [List.replicate_one, run_cons, looked]; rfl, ended⟩
  · let waiting : Tx := { request with phase := .acquireMutationLock }
    have executed := looked
    rw [step, serving.opened] at executed
    rcases serving.advances arrived follows (statement_cases executed) with ⟨tx', there, goesOn⟩ | ended
    · have same := there.opened
      rw [Server.resume_opened, Option.some.injEq] at same
      subst same
      have free : ((database.server.resume 0 request).resume 0 waiting).mutationLocks
          (mutationLockKey hashtext waiting) = none := rfl
      obtain ⟨next, acquired, open_⟩ := acquireMutationLock_free hashtext (t := 0) rfl free
      rcases there.advances arrived goesOn (statement_cases acquired) with ⟨tx', inside, goesOn⟩ | ended
      · rw [inside.opened, Option.some.injEq] at open_
        obtain ⟨count, final, ran, done⟩ := inside.completes hashtext arrived goesOn
          (by rw [open_]; simp only [Phase.remaining]; omega)
        refine ⟨count + 2, final, ?_, done⟩
        rw [List.replicate_succ, List.replicate_succ, run_cons, looked, Option.bind_some, run_cons,
          step, there.opened, Option.bind_some, acquired]
        exact ran
      · rw [ended.txs] at open_
        cases open_
    · have closed := congrFun ended.txs 0
      rw [Server.resume_opened] at closed
      cases closed

theorem postMutation_correct (database : Database) (backend : Backend) (accountId vaultId : Id)
    (mutation : Mutation) (now : Timestamp) :
    ∃ count final fresh, run (step hashtext) database.server
        (.postItem 0 backend accountId vaultId mutation now :: List.replicate count (.statement 0)) =
          some final ∧
      (final.txs = fun _ => none) ∧
      final.store = (postMutation database.toStore backend accountId vaultId mutation now).1 ∧
      final.settled = [⟨accountId, mutation,
        (postMutation database.toStore backend accountId vaultId mutation now).2, fresh⟩] := by
  unfold postMutation
  cases checked : postItem backend accountId vaultId mutation now with
  | none =>
      refine ⟨0, { database.server with settled := [⟨accountId, mutation, .badRequest, false⟩] },
        false, ?_, rfl, rfl, rfl⟩
      simp only [List.replicate_zero, run_cons, step, checked]
      rfl
  | some request =>
      obtain ⟨count, final, ran, ended⟩ :=
        database.completes hashtext (postItem_arrived checked)
      obtain ⟨fresh, settled⟩ := ended.settled
      obtain ⟨-, account, mutated⟩ := postItem_request checked
      refine ⟨count, final, fresh, ?_, ended.txs, ended.store, ?_⟩
      · have opened : step hashtext database.server
            (.postItem 0 backend accountId vaultId mutation now) =
              some (database.server.resume 0 request) := by
          simp only [step, checked]
          rfl
        rw [run_cons, opened]
        exact ran
      · rw [settled, account, mutated]

end

end ZenPass.Sync
