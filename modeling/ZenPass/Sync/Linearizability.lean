import ZenPass.Lib.Linearizability
import ZenPass.Sync.ExactlyOnce
import ZenPass.Sync.Isolation
import ZenPass.Sync.Unnumbered

set_option autoImplicit false

-- Between its arrival and its answer there is a moment at which a request could have run alone, as
-- `applyMutation` on the tables without their sequence numbers. For most requests it is the
-- commit; a request refused for its base revision may have read its answer before.

namespace ZenPass.Sync

open Wire ReadCommitted Transition Linearizability

def Tx.request (tx : Tx) : Tx :=
  { tx with phase := .findReplay, vault := none, item := none, recorded := none }

def ApplyOutcome.answer : ApplyOutcome → Option ApplyOutcome
  | .failed => none
  | outcome => some outcome

def mutationEvent (server : Server) : Action → Server → Option (Event TxId Tx ApplyOutcome)
  | .postItem t _ _ _ _ _, next => (next.txs t).map fun tx => .call t tx
  | .statement t, next | .fail t, next =>
      match server.txs t, next.txs t with
      | some _, none => next.settled.getLast?.map fun entry => .ret t entry.outcome.answer
      | _, _ => none

def Phase.pastMutationLock : Phase → Bool
  | .findReplay | .acquireMutationLock => false
  | _ => true

/-- The transaction has found no outcome, and its account in the vault. -/
structure Owning (store : Store) (tx : Tx) : Prop where
  fresh : store.outcomes tx.outcomeKey = none
  vault : tx.vault = claim store tx
  owner : (store.ensureVaultOwnership tx).owners tx.vaultKey = some tx.accountId

inductive Answering (rows : Id × Id → Option ItemRow) (tx : Tx) : Nat → ResponseBody → Prop where
  | conflict (row : ItemRow) (item : tx.item = some row) (current : rows tx.itemKey = some row)
      (other : tx.mutation.baseRevision ≠ row.revision) :
      Answering rows tx 409
        (.conflict tx.mutation.mutationId (toItemRecord tx.backend row) tx.mutation)
  | inserted (sequence : Nat) (absent : rows tx.itemKey = none)
      (based : tx.mutation.baseRevision = 0)
      (item : tx.item = some (insertedRow { tx with item := none } sequence)) :
      Answering rows tx 201
        (.record (toItemRecord tx.backend (insertedRow { tx with item := none } sequence)))
  | updated (current : ItemRow) (sequence : Nat) (found : rows tx.itemKey = some current)
      (based : tx.mutation.baseRevision = current.revision)
      (item : tx.item = some (updatedRow { tx with item := some current } current sequence)) :
      Answering rows tx 201 (.record
        (toItemRecord tx.backend (updatedRow { tx with item := some current } current sequence)))

def Progress (store : Store) (tx : Tx) : Prop :=
  match tx.phase with
  | .findReplay | .acquireMutationLock | .findMutationOutcome | .finish .failed => True
  | .insertVault => store.outcomes tx.outcomeKey = none
  | .selectVault => store.outcomes tx.outcomeKey = none ∧ tx.vault = claim store tx
  | .getItemForUpdate | .nextval | .upsertItem _ => Owning store tx
  | .recordMutationOutcome statusCode body =>
      Owning store tx ∧ Answering store.rows tx statusCode body
  | .finish .notFound =>
      store.outcomes tx.outcomeKey = none ∧ tx.vault = claim store tx ∧
        (store.ensureVaultOwnership tx).owners tx.vaultKey ≠ some tx.accountId
  | .finish .badRequest => Owning store tx ∧ tx.mutation.baseRevision ≠ 0
  | .finish (.response statusCode body) =>
      (tx.vault = none ∧ tx.recorded = none) ∨
        (Owning store tx ∧ Answering store.rows tx statusCode body)

section

variable {store next : Store} {tx : Tx}

theorem claim_eq_some {account : Id} (claimed : claim store tx = some account) :
    store.owners tx.vaultKey = none ∧ account = tx.accountId := by
  unfold claim at claimed
  split at claimed
  · cases claimed
  · rename_i absent
    cases claimed
    exact ⟨Option.not_isSome_iff_eq_none.mp absent, rfl⟩

theorem claim_eq_none (unclaimed : claim store tx = none) :
    ∃ owner, store.owners tx.vaultKey = some owner := by
  unfold claim at unclaimed
  split at unclaimed
  · exact Option.isSome_iff_exists.mp ‹_›
  · cases unclaimed

theorem claim_kept (kept : OwnersKept store.owners next.owners) (vault : tx.vault = claim store tx)
    (held : tx.vault.isSome = true → next.owners tx.vaultKey = store.owners tx.vaultKey) :
    claim next tx = claim store tx := by
  cases claimed : claim store tx with
  | some account =>
      obtain ⟨absent, rfl⟩ := claim_eq_some claimed
      have still : next.owners tx.vaultKey = none := by
        rw [held (by rw [vault, claimed]; rfl), absent]
      simp [claim, still]
  | none =>
      obtain ⟨owner, found⟩ := claim_eq_none claimed
      simp [claim, kept tx.vaultKey owner found]

theorem owner_kept (kept : OwnersKept store.owners next.owners) (vault : tx.vault = claim store tx)
    (held : tx.vault.isSome = true → next.owners tx.vaultKey = store.owners tx.vaultKey) :
    (next.ensureVaultOwnership tx).owners tx.vaultKey =
      (store.ensureVaultOwnership tx).owners tx.vaultKey := by
  rw [ensureVaultOwnership_owner, ensureVaultOwnership_owner, claim_kept kept vault held]
  cases claimed : claim store tx with
  | some account => rfl
  | none =>
      obtain ⟨owner, found⟩ := claim_eq_none claimed
      rw [kept tx.vaultKey owner found, found]

/-- What the commit of another transaction leaves to this one. -/
structure Spared (store next : Store) (tx : Tx) : Prop where
  kept : OwnersKept store.owners next.owners
  vault : tx.vault.isSome = true → next.owners tx.vaultKey = store.owners tx.vaultKey
  rows : tx.item.isSome = true → next.rows tx.itemKey = store.rows tx.itemKey
  outcomes : tx.phase.pastMutationLock = true →
    store.outcomes tx.outcomeKey = none → next.outcomes tx.outcomeKey = none

theorem Owning.spared (owning : Owning store tx) (spared : Spared store next tx)
    (past : tx.phase.pastMutationLock = true) : Owning next tx where
  fresh := spared.outcomes past owning.fresh
  vault := owning.vault.trans (claim_kept spared.kept owning.vault spared.vault).symm
  owner := (owner_kept spared.kept owning.vault spared.vault).trans owning.owner

theorem Answering.spared {statusCode : Nat} {body : ResponseBody}
    (answering : Answering store.rows tx statusCode body) (spared : Spared store next tx) :
    Answering next.rows tx statusCode body := by
  cases answering with
  | conflict row item current other =>
      exact .conflict row item ((spared.rows (by rw [item]; rfl)).trans current) other
  | inserted sequence absent based item =>
      exact .inserted sequence ((spared.rows (by rw [item]; rfl)).trans absent) based item
  | updated current sequence found based item =>
      exact .updated current sequence ((spared.rows (by rw [item]; rfl)).trans found) based item

theorem Progress.spared (progress : Progress store tx) (spared : Spared store next tx) :
    Progress next tx := by
  have kept := spared.outcomes
  have owning := fun (owning : Owning store tx) => owning.spared spared
  have claimed := fun (vault : tx.vault = claim store tx) =>
    vault.trans (claim_kept spared.kept vault spared.vault).symm
  unfold Progress at progress ⊢
  cases phase : tx.phase with
  | findReplay | acquireMutationLock | findMutationOutcome => trivial
  | insertVault =>
      rw [phase] at progress kept
      exact kept rfl progress
  | selectVault =>
      rw [phase] at progress kept
      exact ⟨kept rfl progress.1, claimed progress.2⟩
  | getItemForUpdate | nextval | upsertItem proposed =>
      rw [phase] at progress owning
      exact owning progress rfl
  | recordMutationOutcome statusCode body =>
      rw [phase] at progress owning
      exact ⟨owning progress.1 rfl, progress.2.spared spared⟩
  | finish outcome =>
      rw [phase] at progress kept owning
      cases outcome with
      | notFound =>
          refine ⟨kept rfl progress.1, claimed progress.2.1, ?_⟩
          rw [owner_kept spared.kept progress.2.1 spared.vault]
          exact progress.2.2
      | badRequest => exact ⟨owning progress.1 rfl, progress.2⟩
      | response statusCode body =>
          rcases progress with replayed | ⟨mine, answering⟩
          · exact .inl replayed
          · exact .inr ⟨owning mine rfl, answering.spared spared⟩
      | failed => trivial

end

section Ends

variable {store : Store} {tx : Tx}

theorem sameRequest_request (tx : Tx) : SameRequest tx.request tx := ⟨rfl, rfl, rfl, rfl⟩

theorem publish_unnumbered (tx : Tx) (store : Store) (sequence other : Nat) :
    (tx.publish store sequence).unnumbered = (tx.publish store other).unnumbered := rfl

theorem Answering.publishes {statusCode : Nat} {body : ResponseBody}
    (answering : Answering store.rows tx statusCode body) (owning : Owning store tx)
    (recorded : tx.recorded = some ⟨tx.mutation.vaultId, statusCode, body⟩) (sequence : Nat) :
    applyUnnumbered store tx.request =
      ((tx.publish store sequence).unnumbered, .response statusCode body) := by
  have fresh : store.outcomes tx.request.outcomeKey = none := owning.fresh
  have owner : (store.ensureVaultOwnership tx.request).owners tx.request.vaultKey =
      some tx.request.accountId := owning.owner
  have same := sameRequest_request tx
  have vault : tx.vault = claim store tx.request := owning.vault
  unfold applyUnnumbered
  cases answering with
  | conflict row item current other =>
      rw [applyMutation_conflict fresh owner current other,
        publish_unnumbered tx store sequence store.vaultChangeSequence,
        publish_conflict same vault item current recorded]
      rfl
  | inserted drawn absent based item =>
      rw [applyMutation_accepted fresh owner absent based, upsertItem_owned_none,
        publish_written same vault item recorded sequence]
      exact Prod.ext (unnumbered_eq _ _ rfl (update_unnumbered _ _ rfl) rfl) rfl
  | updated current drawn found based item =>
      rw [applyMutation_accepted fresh owner found based, upsertItem_owned_some,
        publish_written same vault item recorded sequence]
      exact Prod.ext (unnumbered_eq _ _ rfl (update_unnumbered _ _ rfl) rfl) rfl

theorem replays_known {row : MutationOutcome}
    (known : store.outcomes tx.outcomeKey = some row) :
    applyUnnumbered store tx.request =
      (store.unnumbered, .response row.statusCode row.responseBody) := by
  have found : store.outcomes tx.request.outcomeKey = some row := known
  rw [applyUnnumbered, applyMutation_replay found]

theorem refuses_notOwner (fresh : store.outcomes tx.outcomeKey = none)
    (other : (store.ensureVaultOwnership tx).owners tx.vaultKey ≠ some tx.accountId) :
    applyUnnumbered store tx.request = (store.unnumbered, .notFound) := by
  have fresh' : store.outcomes tx.request.outcomeKey = none := fresh
  have other' : (store.ensureVaultOwnership tx.request).owners tx.request.vaultKey ≠
      some tx.request.accountId := other
  rw [applyUnnumbered, applyMutation_notOwner fresh' other']

theorem claim_of_notOwner
    (other : (store.ensureVaultOwnership tx).owners tx.vaultKey ≠ some tx.accountId) :
    claim store tx = none := by
  cases claimed : claim store tx with
  | none => rfl
  | some account =>
      obtain ⟨-, rfl⟩ := claim_eq_some claimed
      rw [ensureVaultOwnership_owner, claimed] at other
      exact absurd rfl other

theorem Owning.strayEdit (owning : Owning store tx) (absent : store.rows tx.itemKey = none)
    (other : tx.mutation.baseRevision ≠ 0) :
    applyUnnumbered store tx.request =
      ((if commits tx.backend .badRequest then store.ensureVaultOwnership tx else store).unnumbered,
        .badRequest) := by
  have fresh : store.outcomes tx.request.outcomeKey = none := owning.fresh
  have owner : (store.ensureVaultOwnership tx.request).owners tx.request.vaultKey =
      some tx.request.accountId := owning.owner
  rw [applyUnnumbered, applyMutation_strayEdit fresh owner absent other]
  rfl

theorem ensureVaultOwnership_unclaimed (unclaimed : claim store tx = none) :
    store.ensureVaultOwnership tx = store := by
  obtain ⟨owner, found⟩ := claim_eq_none unclaimed
  simp [Store.ensureVaultOwnership, found]

end Ends

def Tx.seen (tx : Tx) : Option ApplyOutcome :=
  match tx.phase with
  | .finish .badRequest =>
      if tx.vault.isSome && commits tx.backend .badRequest then none else some .badRequest
  | _ => none

theorem Owning.seen {store : Store} {tx : Tx} (owning : Owning store tx)
    (absent : store.rows tx.itemKey = none) (other : tx.mutation.baseRevision ≠ 0)
    {answer : ApplyOutcome}
    (read : (if tx.vault.isSome && commits tx.backend .badRequest then none
      else some ApplyOutcome.badRequest) = some answer) :
    applyUnnumbered store tx.request = (store.unnumbered, answer) := by
  rw [owning.strayEdit absent other]
  split at read
  · cases read
  · rename_i free
    cases read
    split
    · rename_i commits_
      rw [commits_, Bool.and_true, Bool.not_eq_true, Option.isSome_eq_false_iff,
        Option.isNone_iff_eq_none, owning.vault] at free
      rw [ensureVaultOwnership_unclaimed free]
    · rfl

/-- Past these phases a transaction holds the mutation lock of its request. -/
def MutationLocked (hashtext : String → Int) (server : Server) : Prop :=
  ∀ t tx, server.txs t = some tx → tx.phase.pastMutationLock = true →
    server.mutationLocks (mutationLockKey hashtext tx) = some t

structure Tracked (hashtext : String → Int) (server : Server) : Prop where
  consistent : Consistent server
  isolated : server.Isolated
  mutationLocked : MutationLocked hashtext server
  progress : ∀ t tx, server.txs t = some tx → Progress server.store tx

structure Resumes (hashtext : String → Int) (server : Server) (t : TxId) (tx tx' : Tx)
    (next : Server) : Prop where
  txs : next.txs = Function.update server.txs t (some tx')
  settled : next.settled = server.settled
  owner : next.owner = server.owner
  rows : next.rows = server.rows
  outcomes : next.recordedOutcome = server.recordedOutcome
  request : tx'.request = tx.request
  mutationLocks : (next.mutationLocks = server.mutationLocks ∧
      (tx'.phase.pastMutationLock = true → tx.phase.pastMutationLock = true)) ∨
    (server.mutationLocks (mutationLockKey hashtext tx) = none ∧
      next.mutationLocks =
        Function.update server.mutationLocks (mutationLockKey hashtext tx) (some t))
  progress : Progress server.store tx'
  seen : ∀ answer, tx'.seen = some answer →
    applyUnnumbered server.store tx.request = (server.store.unnumbered, answer)

section Statements

variable {hashtext : String → Int} {server next : Server} {t : TxId} {tx tx' : Tx}

theorem Owning.of_eq {store : Store} (owning : Owning store tx) (same : SameRequest tx tx')
    (vault : tx'.vault = tx.vault) : Owning store tx' := by
  obtain ⟨fresh, claimed, owner⟩ := owning
  refine ⟨by rw [same.outcomeKey, fresh], ?_, ?_⟩
  · rw [vault, claimed, claim, claim, same.vaultKey, same.accountId]
  · unfold Store.ensureVaultOwnership at owner ⊢
    rw [same.vaultKey, same.accountId]
    exact owner

theorem resumes_quietly (phase : tx.phase.pastMutationLock = true) {server' : Server}
    (txs : server'.txs = server.txs) (settled : server'.settled = server.settled)
    (owner : server'.owner = server.owner) (rows : server'.rows = server.rows)
    (outcomes : server'.recordedOutcome = server.recordedOutcome)
    (mutationLocks : server'.mutationLocks = server.mutationLocks)
    (request : tx'.request = tx.request) (progress : Progress server.store tx')
    (seen : ∀ answer, tx'.seen = some answer →
      applyUnnumbered server.store tx.request = (server.store.unnumbered, answer)) :
    Resumes hashtext server t tx tx' (server'.resume t tx') where
  txs := by
    change Function.update server'.txs t _ = _
    rw [txs]
  settled := settled
  owner := owner
  rows := rows
  outcomes := outcomes
  request := request
  mutationLocks := .inl ⟨mutationLocks, fun _ => phase⟩
  progress := progress
  seen := seen

theorem vault_view (locked : Locked server) (opened : server.txs t = some tx)
    (vault : tx.vault = claim server.store tx) :
    (server.vaults tx.vaultKey).view t =
      (server.store.ensureVaultOwnership tx).owners tx.vaultKey := by
  rw [locked.vaults.view opened, vault, ensureVaultOwnership_owner]
  rfl

theorem compareRevision_request (tx : Tx) (existing : Option ItemRow) :
    (compareRevision tx existing).request = tx.request := by
  rcases compareRevision_cases tx existing with ⟨-, compared⟩ | ⟨row, body, -, compared⟩
    | ⟨-, compared⟩ <;> rw [compared] <;> rfl

theorem progress_compareRevision (owning : Owning server.store tx) (existing : Option ItemRow)
    (current : server.rows tx.itemKey = existing) :
    Progress server.store (compareRevision tx existing) := by
  have owns : ∀ item phase, Owning server.store { tx with item := item, phase := phase } :=
    fun _ _ => owning.of_eq ⟨rfl, rfl, rfl, rfl⟩ rfl
  by_cases based : tx.mutation.baseRevision = revisionOf existing
  · have compared : compareRevision tx existing = { tx with item := existing, phase := .nextval } :=
      if_neg (not_not.mpr based)
    rw [compared]
    exact owns _ _
  · cases existing with
    | none =>
        have compared : compareRevision tx none = { tx with phase := .finish .badRequest } :=
          if_pos based
        rw [compared]
        exact ⟨owns _ _, based⟩
    | some row =>
        have compared : compareRevision tx (some row) =
            { tx with
              item := some row
              phase := .recordMutationOutcome 409
                (.conflict tx.mutation.mutationId (toItemRecord tx.backend row) tx.mutation) } :=
          if_pos based
        rw [compared]
        exact ⟨owns _ _, .conflict row rfl current based⟩

theorem seen_compareRevision (owning : Owning server.store tx) (existing : Option ItemRow)
    (current : server.rows tx.itemKey = existing) (answer : ApplyOutcome)
    (read : (compareRevision tx existing).seen = some answer) :
    applyUnnumbered server.store tx.request = (server.store.unnumbered, answer) := by
  by_cases based : tx.mutation.baseRevision = revisionOf existing
  · have compared : compareRevision tx existing = { tx with item := existing, phase := .nextval } :=
      if_neg (not_not.mpr based)
    rw [compared] at read
    cases read
  · cases existing with
    | none =>
        have compared : compareRevision tx none = { tx with phase := .finish .badRequest } :=
          if_pos based
        rw [compared] at read
        exact owning.seen current based read
    | some row =>
        have compared : (compareRevision tx (some row)).phase = .recordMutationOutcome 409
            (.conflict tx.mutation.mutationId (toItemRecord tx.backend row) tx.mutation) :=
          congrArg Tx.phase (if_pos based)
        unfold Tx.seen at read
        rw [compared] at read
        cases read

theorem acquireMutationLock_cases (phase : tx.phase = .acquireMutationLock)
    (executes : statement hashtext server t tx = some next) :
    server.mutationLocks (mutationLockKey hashtext tx) = none ∧
      next = { server with
        mutationLocks :=
          Function.update server.mutationLocks (mutationLockKey hashtext tx) (some t) }.resume t
        { tx with phase := .findMutationOutcome } := by
  unfold statement at executes
  rw [phase] at executes
  dsimp only at executes
  split at executes
  · cases executes
    exact ⟨‹_›, rfl⟩
  · cases executes

section Progress

variable (tracked : Tracked hashtext server) (opened : server.txs t = some tx)

include tracked opened

theorem progress_outcome (phase : tx.phase = .findMutationOutcome) (row : MutationOutcome) :
    Progress server.store { tx with phase := .finish (.response row.statusCode row.responseBody) } := by
  have holds := tracked.consistent.locked.holds t tx opened
  unfold Tx.Holds at holds
  rw [phase] at holds
  exact .inl ⟨holds.1, holds.2.2⟩

theorem progress_noOutcome (phase : tx.phase = .findMutationOutcome)
    (absent : (server.outcomes tx.outcomeKey).view t = none) :
    Progress server.store { tx with phase := .insertVault } := by
  have locked := tracked.consistent.locked
  have holds := locked.holds t tx opened
  unfold Tx.Holds at holds
  rw [phase] at holds
  have fresh := locked.outcomes.view opened
  rw [absent, holds.2.2] at fresh
  exact fresh.symm

theorem progress_vaultExists (phase : tx.phase = .insertVault)
    (present : (server.vaults tx.vaultKey).committed.isSome = true) :
    Progress server.store { tx with phase := .selectVault } := by
  have progress := tracked.progress t tx opened
  have holds := tracked.consistent.locked.holds t tx opened
  unfold Progress at progress
  unfold Tx.Holds at holds
  rw [phase] at progress holds
  refine ⟨progress, ?_⟩
  change tx.vault = claim server.store tx
  rw [holds.1]
  exact (if_pos present).symm

theorem progress_vaultInserted (phase : tx.phase = .insertVault)
    (absent : (server.vaults tx.vaultKey).committed = none) :
    Progress server.store { tx with vault := some tx.accountId, phase := .selectVault } := by
  have progress := tracked.progress t tx opened
  unfold Progress at progress
  rw [phase] at progress
  refine ⟨progress, ?_⟩
  change some tx.accountId = claim server.store tx
  symm
  apply if_neg
  change ¬ (server.vaults tx.vaultKey).committed.isSome = true
  rw [absent]
  exact Bool.false_ne_true

theorem progress_owner (phase : tx.phase = .selectVault)
    (owned : (server.vaults tx.vaultKey).view t = some tx.accountId) :
    Progress server.store { tx with phase := .getItemForUpdate } := by
  have progress := tracked.progress t tx opened
  unfold Progress at progress
  rw [phase] at progress
  rw [vault_view tracked.consistent.locked opened progress.2] at owned
  have owning : Owning server.store tx := ⟨progress.1, progress.2, owned⟩
  exact owning.of_eq ⟨rfl, rfl, rfl, rfl⟩ rfl

theorem progress_notOwner (phase : tx.phase = .selectVault)
    (other : (server.vaults tx.vaultKey).view t ≠ some tx.accountId) :
    Progress server.store { tx with phase := .finish .notFound } := by
  have progress := tracked.progress t tx opened
  unfold Progress at progress
  rw [phase] at progress
  rw [vault_view tracked.consistent.locked opened progress.2] at other
  exact ⟨progress.1, progress.2, other⟩

theorem owning_getItemForUpdate (phase : tx.phase = .getItemForUpdate) : Owning server.store tx := by
  have progress := tracked.progress t tx opened
  unfold Progress at progress
  rw [phase] at progress
  exact progress

theorem progress_drawn (phase : tx.phase = .nextval) (proposed : Nat) :
    Progress server.store { tx with phase := .upsertItem proposed } := by
  have progress := tracked.progress t tx opened
  unfold Progress at progress
  rw [phase] at progress
  exact progress.of_eq ⟨rfl, rfl, rfl, rfl⟩ rfl

theorem progress_inserted {proposed : Nat} (phase : tx.phase = .upsertItem proposed)
    (absent : (server.items tx.itemKey).committed = none) :
    Progress server.store (tx.written (insertedRow tx proposed)) := by
  have progress := tracked.progress t tx opened
  have stage := tracked.consistent.stage t tx opened
  unfold Progress at progress
  unfold Stage at stage
  rw [phase] at progress stage
  have item : tx.item = none := by
    cases item : tx.item with
    | none => rfl
    | some row => exact absurd (absent.symm.trans (stage.2 row item)) (by simp)
  rw [item] at stage
  have row : insertedRow tx proposed = insertedRow { tx with item := none } proposed := by rw [← item]
  rw [row]
  exact ⟨progress.of_eq ⟨rfl, rfl, rfl, rfl⟩ rfl, .inserted proposed absent stage.1 rfl⟩

theorem progress_updated {proposed : Nat} (phase : tx.phase = .upsertItem proposed)
    (unseen : overwritesUnseenRow server (.statement t) = false) {current : ItemRow}
    (found : (server.items tx.itemKey).committed = some current) (sequence : Nat) :
    Progress server.store (tx.written (updatedRow tx current sequence)) := by
  have progress := tracked.progress t tx opened
  have stage := tracked.consistent.stage t tx opened
  unfold Progress at progress
  unfold Stage at stage
  rw [phase] at progress stage
  have item : tx.item = some current := by
    cases item : tx.item with
    | none =>
        have there : (server.rows tx.itemKey).isSome = true := by
          change (server.items tx.itemKey).committed.isSome = true
          rw [found]
          rfl
        simp [overwritesUnseenRow, opened, phase, item, there] at unseen
    | some row => exact (stage.2 row item).symm.trans found
  rw [item] at stage
  have row : updatedRow tx current sequence =
      updatedRow { tx with item := some current } current sequence := by
    rw [← item]
  rw [row]
  exact ⟨progress.of_eq ⟨rfl, rfl, rfl, rfl⟩ rfl, .updated current _ found stage.1 rfl⟩

theorem progress_recorded {statusCode : Nat} {body : ResponseBody}
    (phase : tx.phase = .recordMutationOutcome statusCode body) :
    Progress server.store
      { tx with
        recorded := some ⟨tx.mutation.vaultId, statusCode, body⟩
        phase := .finish (.response statusCode body) } := by
  have progress := tracked.progress t tx opened
  unfold Progress at progress
  rw [phase] at progress
  refine .inr ⟨progress.1.of_eq ⟨rfl, rfl, rfl, rfl⟩ rfl, ?_⟩
  cases progress.2 with
  | conflict row item current other => exact .conflict row item current other
  | inserted sequence absent based item => exact .inserted sequence absent based item
  | updated current sequence found based item => exact .updated current sequence found based item

end Progress

theorem Tracked.statement (tracked : Tracked hashtext server) (opened : server.txs t = some tx)
    (unseen : overwritesUnseenRow server (.statement t) = false)
    (executes : statement hashtext server t tx = some next) :
    (∃ tx', Resumes hashtext server t tx tx' next) ∨
      (∃ row, tx.phase = .findReplay ∧ server.recordedOutcome tx.outcomeKey = some row ∧
        next = (server.settle tx (.response row.statusCode row.responseBody)).releaseLocks t) ∨
      ∃ outcome, tx.phase = .finish outcome ∧
        next = ((if commits tx.backend outcome then server.commit t else server.rollback t).settle tx
          outcome).releaseLocks t := by
  have past (phase : Phase) (at_ : tx.phase = phase) (later : phase.pastMutationLock = true) :
      tx.phase.pastMutationLock = true := by rw [at_, later]
  have unread {tx' : Tx} (none_ : tx'.seen = none) (answer : ApplyOutcome)
      (read : tx'.seen = some answer) :
      applyUnnumbered server.store tx.request = (server.store.unnumbered, answer) := by
    rw [none_] at read
    cases read
  have held {K V : Type} [DecidableEq K] (table : Table K TxId V) (key : K) (version : Option V) :
      (fun other => (table.hold key t version other).committed) = fun other =>
        (table other).committed := funext fun other => Table.hold_committed _ _ _ _ _
  cases statement_cases executes with
  | replay row phase found => exact .inr (.inl ⟨row, phase, found, rfl⟩)
  | finished outcome phase => exact .inr (.inr ⟨outcome, phase, rfl⟩)
  | noReplay phase absent =>
      exact .inl ⟨_, rfl, rfl, rfl, rfl, rfl, rfl, .inl ⟨rfl, by rintro ⟨⟩⟩, trivial,
        unread rfl⟩
  | lock key phase =>
      obtain ⟨free, moved⟩ := acquireMutationLock_cases phase executes
      rw [moved]
      exact .inl ⟨_, rfl, rfl, rfl, rfl, rfl, rfl, .inr ⟨free, rfl⟩, trivial, unread rfl⟩
  | outcome row phase found =>
      exact .inl ⟨_, resumes_quietly (past _ phase rfl) rfl rfl rfl rfl rfl rfl rfl
        (progress_outcome tracked opened phase row) (unread rfl)⟩
  | noOutcome phase absent =>
      exact .inl ⟨_, resumes_quietly (past _ phase rfl) rfl rfl rfl rfl rfl rfl rfl
        (progress_noOutcome tracked opened phase absent) (unread rfl)⟩
  | vaultExists phase present =>
      exact .inl ⟨_, resumes_quietly (past _ phase rfl) rfl rfl rfl rfl rfl rfl rfl
        (progress_vaultExists tracked opened phase present) (unread rfl)⟩
  | vaultInserted phase absent available =>
      exact .inl ⟨_, resumes_quietly (past _ phase rfl) rfl rfl (held _ _ _) rfl rfl rfl rfl
        (progress_vaultInserted tracked opened phase absent) (unread rfl)⟩
  | owner phase owned =>
      exact .inl ⟨_, resumes_quietly (past _ phase rfl) rfl rfl rfl rfl rfl rfl rfl
        (progress_owner tracked opened phase owned) (unread rfl)⟩
  | notOwner phase other =>
      exact .inl ⟨_, resumes_quietly (past _ phase rfl) rfl rfl rfl rfl rfl rfl rfl
        (progress_notOwner tracked opened phase other) (unread rfl)⟩
  | noItem phase absent =>
      have owning := owning_getItemForUpdate tracked opened phase
      exact .inl ⟨_, resumes_quietly (past _ phase rfl) rfl rfl rfl rfl rfl rfl
        (compareRevision_request tx none) (progress_compareRevision owning none absent)
        (seen_compareRevision owning none absent)⟩
  | item row phase found available =>
      have owning := owning_getItemForUpdate tracked opened phase
      exact .inl ⟨_, resumes_quietly (past _ phase rfl) rfl rfl rfl (held _ _ _) rfl rfl
        (compareRevision_request tx _) (progress_compareRevision owning _ found)
        (seen_compareRevision owning _ found)⟩
  | drawn phase =>
      exact .inl ⟨_, resumes_quietly (past _ phase rfl) rfl rfl rfl rfl rfl rfl rfl
        (progress_drawn tracked opened phase _) (unread rfl)⟩
  | inserted proposed phase available absent =>
      exact .inl ⟨_, resumes_quietly (past _ phase rfl) rfl rfl rfl (held _ _ _) rfl rfl rfl
        (progress_inserted tracked opened phase absent) (unread rfl)⟩
  | updated proposed current phase available found =>
      exact .inl ⟨_, resumes_quietly (past _ phase rfl) rfl rfl rfl (held _ _ _) rfl rfl rfl
        (progress_updated tracked opened phase unseen found _) (unread rfl)⟩
  | duplicate statusCode body row phase found =>
      exact .inl ⟨_, resumes_quietly (past _ phase rfl) rfl rfl rfl rfl rfl rfl rfl trivial
        (unread rfl)⟩
  | recorded statusCode body phase available absent =>
      exact .inl ⟨_, resumes_quietly (past _ phase rfl) rfl rfl rfl rfl (held _ _ _) rfl rfl
        (progress_recorded tracked opened phase) (unread rfl)⟩

theorem commit_store (locked : Locked server) (opened : server.txs t = some tx) :
    (server.commit t).store = tx.publish server.store server.vaultChangeSequence := by
  have owners := commit_owner locked opened
  have rows := locked.commit_rows opened
  have outcomes := locked.commit_outcomes opened
  unfold Server.store Tx.publish
  congr 1

theorem rollback_store (server : Server) (t : TxId) : (server.rollback t).store = server.store := by
  have owners := rollback_owner server t
  have rows := server.rollback_rows t
  have outcomes := server.rollback_outcomes t
  unfold Server.store
  congr 1

theorem Spared.of_eq {store after : Store} (owners : after.owners = store.owners)
    (rows : after.rows = store.rows) (outcomes : after.outcomes = store.outcomes) :
    Spared store after tx where
  kept vaultId account owned := by rw [owners, owned]
  vault _ := by rw [owners]
  rows _ := by rw [rows]
  outcomes _ fresh := by rw [outcomes, fresh]

theorem mutationLockKey_of_outcomeKey {other : Tx} (same : other.outcomeKey = tx.outcomeKey) :
    mutationLockKey hashtext other = mutationLockKey hashtext tx := by
  obtain ⟨account, mutation⟩ := Prod.mk.inj same
  rw [mutationLockKey, mutationLockKey, account, mutation]

theorem pastMutationLock_of_recorded (holds : tx.Holds) (recorded : tx.recorded.isSome = true) :
    tx.phase.pastMutationLock = true := by
  unfold Tx.Holds at holds
  cases phase : tx.phase with
  | findReplay | acquireMutationLock =>
      rw [phase] at holds
      rw [holds.2.2] at recorded
      cases recorded
  | _ => rfl

theorem Tracked.spared (tracked : Tracked hashtext server) (opened : server.txs t = some tx)
    {u : TxId} {other : Tx} (open_ : server.txs u = some other) (different : u ≠ t) :
    Spared server.store (server.commit t).store other := by
  have locked := tracked.consistent.locked
  refine ⟨commit_ownersKept tracked.isolated opened, fun held => ?_,
    (locked.commit_elsewhere opened open_ different).1, fun past fresh => ?_⟩
  · change (server.commit t).owner other.vaultKey = server.owner other.vaultKey
    rw [commit_owner locked opened]
    cases vault : tx.vault with
    | none => rfl
    | some account =>
        apply Function.update_of_ne
        intro same
        obtain ⟨claimed, held⟩ := Option.isSome_iff_exists.mp held
        exact different (locked.vaults.exclusive open_ opened same (by rw [held]; rfl)
          (by rw [vault]; rfl))
  · change (server.commit t).recordedOutcome other.outcomeKey = none
    rw [locked.commit_outcomes opened]
    cases recorded : tx.recorded with
    | none => exact fresh
    | some row =>
        refine (Function.update_of_ne (fun same => different ?_) _ _).trans fresh
        have mine := tracked.mutationLocked t tx opened
          (pastMutationLock_of_recorded (locked.holds t tx opened) (by rw [recorded]; rfl))
        have others := tracked.mutationLocked u other open_ past
        rw [mutationLockKey_of_outcomeKey same, mine] at others
        cases others
        rfl

theorem Tracked.resumes (tracked : Tracked hashtext server) (opened : server.txs t = some tx)
    (resumes : Resumes hashtext server t tx tx' next) (consistent : Consistent next)
    (isolated : next.Isolated) : Tracked hashtext next where
  consistent := consistent
  isolated := isolated
  mutationLocked := by
    have outcomeKey : tx'.request.outcomeKey = tx.request.outcomeKey := by rw [resumes.request]
    have request : mutationLockKey hashtext tx' = mutationLockKey hashtext tx :=
      mutationLockKey_of_outcomeKey outcomeKey
    intro u other open_ past
    rw [resumes.txs] at open_
    by_cases mine : u = t
    · subst mine
      rw [Function.update_self, Option.some.injEq] at open_
      subst open_
      rcases resumes.mutationLocks with ⟨same, before⟩ | ⟨-, taken⟩
      · rw [same, request]
        exact tracked.mutationLocked u tx opened (before past)
      · rw [taken, request, Function.update_self]
    · rw [Function.update_of_ne mine] at open_
      have held := tracked.mutationLocked u other open_ past
      rcases resumes.mutationLocks with ⟨same, -⟩ | ⟨free, taken⟩
      · rw [same, held]
      · rw [taken, Function.update_of_ne, held]
        intro same
        rw [same, free] at held
        cases held
  progress := by
    have spared (other : Tx) : Spared server.store next.store other :=
      .of_eq resumes.owner resumes.rows resumes.outcomes
    intro u other open_
    rw [resumes.txs] at open_
    by_cases mine : u = t
    · subst mine
      rw [Function.update_self, Option.some.injEq] at open_
      subst open_
      exact resumes.progress.spared (spared _)
    · rw [Function.update_of_ne mine] at open_
      exact (tracked.progress u other open_).spared (spared _)

theorem Tracked.ends (tracked : Tracked hashtext server) (ended : Server) {entry : Tx}
    {outcome : ApplyOutcome} (txs : ended.txs = server.txs)
    (mutationLocks : ended.mutationLocks = server.mutationLocks)
    (spared : ∀ u other, server.txs u = some other → u ≠ t →
      Spared server.store ended.store other)
    (consistent : Consistent ((ended.settle entry outcome).releaseLocks t))
    (isolated : ((ended.settle entry outcome).releaseLocks t).Isolated) :
    Tracked hashtext ((ended.settle entry outcome).releaseLocks t) where
  consistent := consistent
  isolated := isolated
  mutationLocked := by
    intro u other open_ past
    change Function.update ended.txs t none u = some other at open_
    rw [txs] at open_
    obtain ⟨different, open_⟩ := closed_of_ne server t open_
    have held := tracked.mutationLocked u other open_ past
    change (if ended.mutationLocks _ = some t then none else ended.mutationLocks _) = some u
    rw [mutationLocks, held, if_neg (by simpa using different)]
  progress := by
    intro u other open_
    change Function.update ended.txs t none u = some other at open_
    rw [txs] at open_
    obtain ⟨different, open_⟩ := closed_of_ne server t open_
    exact (tracked.progress u other open_).spared (spared u other open_ different)

end Statements

def Server.view (server : Server) : View TxId Tx ApplyOutcome Store where
  state := server.store.unnumbered
  calls := fun t => (server.txs t).map Tx.request
  seen := fun t => (server.txs t).bind Tx.seen

section Steps

variable {hashtext : String → Int} {server next : Server} {t : TxId} {tx tx' : Tx}

theorem tracked_initial : Tracked hashtext Server.initial where
  consistent := consistent_initial
  isolated := isolated_initial
  mutationLocked := by rintro t tx ⟨⟩
  progress := by rintro t tx ⟨⟩

theorem Spared.refl (store : Store) : Spared store store tx := .of_eq rfl rfl rfl

theorem tracked_step {action : Action} (tracked : Tracked hashtext server)
    (unseen : overwritesUnseenRow server action = false)
    (stepped : step hashtext server action = some next) : Tracked hashtext next := by
  have consistent := consistent_step tracked.consistent unseen stepped
  have isolated := isolated_step tracked.isolated stepped
  cases action with
  | postItem t backend accountId vaultId mutation now =>
      cases step_cases stepped with
      | accepted t backend accountId vaultId mutation now tx closed checked =>
          obtain ⟨-, phase, -⟩ := postItem_correct checked
          refine ⟨consistent, isolated, ?_, ?_⟩
          · intro u other open_ past
            change Function.update server.txs t (some tx) u = some other at open_
            by_cases mine : u = t
            · subst mine
              rw [Function.update_self, Option.some.injEq] at open_
              rw [← open_, phase] at past
              cases past
            · rw [Function.update_of_ne mine] at open_
              exact tracked.mutationLocked u other open_ past
          · refine forall_resume (fun u other open_ => tracked.progress u other open_) ?_
            unfold Progress
            rw [phase]
            trivial
      | refused => exact ⟨consistent, isolated, tracked.mutationLocked, tracked.progress⟩
  | statement t =>
      simp only [step, Option.bind_eq_some_iff] at stepped
      obtain ⟨tx, opened, executes⟩ := stepped
      rcases tracked.statement opened unseen executes with ⟨tx', resumes⟩ |
        ⟨row, -, -, rfl⟩ | ⟨outcome, phase, rfl⟩
      · exact tracked.resumes opened resumes consistent isolated
      · exact tracked.ends server rfl rfl (fun _ _ _ _ => .refl _) consistent isolated
      · refine tracked.ends _ ?_ ?_ (fun u other open_ different => ?_) consistent isolated
        · split <;> rfl
        · split <;> rfl
        · split
          · exact tracked.spared opened open_ different
          · rw [rollback_store]
            exact .refl _
  | fail t =>
      simp only [step, Option.map_eq_some_iff] at stepped
      obtain ⟨tx, opened, rfl⟩ := stepped
      refine tracked.ends (server.rollback t) rfl rfl (fun _ _ _ _ => ?_) consistent isolated
      rw [rollback_store]
      exact .refl _

theorem Resumes.moves (resumes : Resumes hashtext server t tx tx' next)
    (opened : server.txs t = some tx) :
    Moves applyUnnumbered server.view next.view (mutationEvent server (.statement t) next) := by
  have goesOn : next.txs t = some tx' := by rw [resumes.txs, Function.update_self]
  have event : mutationEvent server (.statement t) next = none := by
    simp only [mutationEvent, goesOn, opened]
  rw [event]
  refine .internal ?_ ?_ ?_
  · exact unnumbered_eq _ _ resumes.owner (fun key =>
      congrArg (Option.map ItemRow.unnumbered) (congrFun resumes.rows key)) resumes.outcomes
  · funext u
    simp only [Server.view, resumes.txs]
    by_cases mine : u = t
    · subst mine
      rw [Function.update_self, opened, Option.map_some, Option.map_some, resumes.request]
    · rw [Function.update_of_ne mine]
  · intro u answer read
    simp only [Server.view, resumes.txs] at read
    by_cases mine : u = t
    · subst mine
      rw [Function.update_self, Option.bind_some] at read
      refine .inr ⟨tx.request, by simp only [Server.view, opened, Option.map_some], ?_⟩
      exact (applyMutation_unnumbered _ _).trans (resumes.seen answer read)
    · rw [Function.update_of_ne mine] at read
      exact .inl read

theorem Server.closes (server ended : Server) (opened : server.txs t = some tx)
    (txs : ended.txs = server.txs) (entry : Tx) (outcome : ApplyOutcome) {action : Action}
    (action_ : action = .statement t ∨ action = .fail t)
    (ends : ((ended.settle entry outcome).releaseLocks t).view.calls =
        Function.update server.view.calls t none →
      (∀ u answer, ((ended.settle entry outcome).releaseLocks t).view.seen u = some answer →
        u ≠ t ∧ server.view.seen u = some answer) →
      Moves applyUnnumbered server.view ((ended.settle entry outcome).releaseLocks t).view
        (some (.ret t outcome.answer))) :
    Moves applyUnnumbered server.view ((ended.settle entry outcome).releaseLocks t).view
      (mutationEvent server action ((ended.settle entry outcome).releaseLocks t)) := by
  have closed : ((ended.settle entry outcome).releaseLocks t).txs =
      Function.update server.txs t none := by
    change Function.update ended.txs t none = _
    rw [txs]
  have event : mutationEvent server action ((ended.settle entry outcome).releaseLocks t) =
      some (.ret t outcome.answer) := by
    have last : ((ended.settle entry outcome).releaseLocks t).settled.getLast? =
        some ⟨entry.accountId, entry.mutation, outcome, entry.recorded.isSome⟩ :=
      List.getLast?_concat
    rcases action_ with rfl | rfl <;>
      simp only [mutationEvent, closed, opened, Function.update_self, last, Option.map_some]
  rw [event]
  refine ends ?_ ?_
  · funext u
    simp only [Server.view, closed]
    by_cases mine : u = t
    · subst mine
      rw [Function.update_self, Function.update_self, Option.map_none]
    · rw [Function.update_of_ne mine, Function.update_of_ne mine]
  · intro u answer read
    simp only [Server.view, closed] at read
    by_cases mine : u = t
    · subst mine
      rw [Function.update_self] at read
      cases read
    · rw [Function.update_of_ne mine] at read
      exact ⟨mine, read⟩

theorem publish_nothing {store : Store} (vault : tx.vault = none) (item : tx.item = none)
    (recorded : tx.recorded = none) (sequence : Nat) :
    (tx.publish store sequence).unnumbered = store.unnumbered := by
  unfold Tx.publish
  rw [vault, item, recorded]
  rfl

theorem publish_vault {store : Store} (vault : tx.vault = claim store tx) (item : tx.item = none)
    (recorded : tx.recorded = none) (sequence : Nat) :
    (tx.publish store sequence).unnumbered = (store.ensureVaultOwnership tx).unnumbered := by
  have published : tx.publish store store.vaultChangeSequence =
      store.ensureVaultOwnership tx.request :=
    publish_unwritten (sameRequest_request tx) vault item recorded
  rw [publish_unnumbered tx store sequence store.vaultChangeSequence, published]
  rfl

theorem Tracked.finishes (tracked : Tracked hashtext server) (opened : server.txs t = some tx)
    {outcome : ApplyOutcome} (phase : tx.phase = .finish outcome) :
    let next := ((if commits tx.backend outcome then server.commit t else server.rollback t).settle tx
      outcome).releaseLocks t
    Moves applyUnnumbered server.view next.view (mutationEvent server (.statement t) next) := by
  have locked := tracked.consistent.locked
  have progress := tracked.progress t tx opened
  have holds := locked.holds t tx opened
  have stage := tracked.consistent.stage t tx opened
  have request : server.view.calls t = some tx.request := by
    simp only [Server.view, opened, Option.map_some]
  have rolledBack : (server.rollback t).store.unnumbered = server.store.unnumbered := by
    rw [rollback_store]
  have committed : (server.commit t).store.unnumbered =
      (tx.publish server.store server.vaultChangeSequence).unnumbered := by
    rw [commit_store locked opened]
  have applied (after : Store) (answer : ApplyOutcome)
      (runs : applyUnnumbered server.store tx.request = (after, answer)) :
      applyUnnumbered server.view.state tx.request = (after, answer) :=
    (applyMutation_unnumbered _ _).trans runs
  intro next
  refine server.closes _ opened ?_ tx outcome (.inl rfl) fun calls seen => ?_
  · split <;> rfl
  unfold Progress at progress
  unfold Tx.Holds at holds
  unfold Stage at stage
  rw [phase] at progress holds stage
  cases outcome with
  | failed =>
      refine .abandoned t ?_ calls seen
      change (server.rollback t).store.unnumbered = _
      exact rolledBack
  | notFound =>
      obtain ⟨fresh, vault, other⟩ := progress
      have none_ : tx.vault = none := vault.trans (claim_of_notOwner other)
      refine .effect t tx.request .notFound request (applied _ _ ?_) calls seen
      rw [refuses_notOwner fresh other]
      refine Prod.ext ?_ rfl
      change _ = (if commits tx.backend .notFound then server.commit t
        else server.rollback t).store.unnumbered
      split
      · rw [committed, publish_nothing none_ holds.1 holds.2]
      · exact rolledBack.symm
  | badRequest =>
      obtain ⟨owning, stray⟩ := progress
      by_cases claims : (tx.vault.isSome && commits tx.backend .badRequest) = true
      · -- The vault that this commit leaves behind held no item.
        have commits_ : commits tx.backend .badRequest = true := by simp_all
        have claimed : tx.vault.isSome = true := by simp_all
        have absent : server.rows tx.itemKey = none := by
          cases there : server.rows tx.itemKey with
          | none => rfl
          | some row =>
              have owner := tracked.isolated.items _ row there
              obtain ⟨account, claimed⟩ := Option.isSome_iff_exists.mp claimed
              rw [owning.vault] at claimed
              have free : server.owner tx.itemKey.1 = none := (claim_eq_some claimed).1
              rw [free] at owner
              cases owner
        refine .effect t tx.request .badRequest request (applied _ _ ?_) calls seen
        rw [owning.strayEdit absent stray, if_pos commits_]
        refine Prod.ext ?_ rfl
        change _ = (if commits tx.backend .badRequest then server.commit t
          else server.rollback t).store.unnumbered
        rw [if_pos commits_, committed, publish_vault owning.vault holds.1 holds.2]
      · refine .answered t .badRequest ?_ ?_ calls seen
        · simp only [Server.view, opened, Option.bind_some, Tx.seen, phase]
          rw [if_neg claims]
        · change (if commits tx.backend .badRequest then server.commit t
            else server.rollback t).store.unnumbered = server.store.unnumbered
          split
          · rename_i commits_
            have none_ : tx.vault = none := by simp_all
            rw [committed, publish_nothing none_ holds.1 holds.2]
          · exact rolledBack
  | response statusCode body =>
      have commits_ : commits tx.backend (.response statusCode body) = true := by
        cases tx.backend <;> rfl
      refine .effect t tx.request (.response statusCode body) request (applied _ _ ?_) calls seen
      change _ = ((if commits tx.backend (.response statusCode body) then server.commit t
        else server.rollback t).store.unnumbered, _)
      rw [if_pos commits_, committed]
      rcases progress with ⟨vault, unrecorded⟩ | ⟨owning, answering⟩
      · rcases stage with ⟨item, -, vaultId, known⟩ | ⟨recorded, -⟩
        · rw [replays_known known, publish_nothing vault item unrecorded]
        · rw [unrecorded] at recorded
          cases recorded
      · rcases stage with ⟨-, -, vaultId, known⟩ | ⟨recorded, -⟩
        · have fresh := owning.fresh
          change server.recordedOutcome tx.outcomeKey = none at fresh
          rw [fresh] at known
          cases known
        · exact answering.publishes owning recorded server.vaultChangeSequence

theorem accepted_moves (closed : server.txs t = none) (arrived : tx.Arrived)
    {action : Action} (event : mutationEvent server action (server.resume t tx) = some (.call t tx)) :
    Moves applyUnnumbered server.view (server.resume t tx).view
      (mutationEvent server action (server.resume t tx)) := by
  rw [event]
  refine .call t tx ?_ rfl ?_ ?_
  · simp only [Server.view, closed, Option.map_none]
  · have request : tx.request = tx := by
      unfold Tx.request
      rw [← arrived.phase, ← arrived.vault, ← arrived.item, ← arrived.recorded]
    funext u
    change (Function.update server.txs t (some tx) u).map Tx.request = _
    by_cases mine : u = t
    · subst mine
      rw [Function.update_self, Function.update_self, Option.map_some, request]
    · rw [Function.update_of_ne mine, Function.update_of_ne mine]
      rfl
  · intro u answer read
    change (Function.update server.txs t (some tx) u).bind Tx.seen = some answer at read
    by_cases mine : u = t
    · subst mine
      rw [Function.update_self, Option.bind_some, Tx.seen, arrived.phase] at read
      cases read
    · rw [Function.update_of_ne mine] at read
      exact ⟨mine, read⟩

theorem Tracked.moves {action : Action} (tracked : Tracked hashtext server)
    (unseen : overwritesUnseenRow server action = false)
    (stepped : step hashtext server action = some next) :
    Moves applyUnnumbered server.view next.view (mutationEvent server action next) := by
  cases action with
  | postItem t backend accountId vaultId mutation now =>
      simp only [step] at stepped
      split at stepped
      · cases stepped
      · rename_i closed
        split at stepped <;> cases stepped
        · rename_i tx checked
          refine accepted_moves closed (postItem_arrived checked) ?_
          simp only [mutationEvent, Server.resume_opened, Option.map_some]
        · simp only [mutationEvent, closed, Option.map_none]
          exact .internal rfl rfl fun _ _ read => .inl read
  | statement t =>
      simp only [step, Option.bind_eq_some_iff] at stepped
      obtain ⟨tx, opened, executes⟩ := stepped
      rcases tracked.statement opened unseen executes with ⟨tx', resumes⟩ |
        ⟨row, phase, known, rfl⟩ | ⟨outcome, phase, rfl⟩
      · exact resumes.moves opened
      · refine server.closes server opened rfl tx _ (.inl rfl) fun calls seen => ?_
        have request : server.view.calls t = some tx.request := by
          simp only [Server.view, opened, Option.map_some]
        exact .effect t tx.request _ request
          ((applyMutation_unnumbered _ _).trans (replays_known known)) calls seen
      · exact tracked.finishes opened phase
  | fail t =>
      simp only [step, Option.map_eq_some_iff] at stepped
      obtain ⟨tx, opened, rfl⟩ := stepped
      refine server.closes (server.rollback t) opened rfl { tx with recorded := none } .failed
        (.inr rfl) fun calls seen => ?_
      refine .abandoned t ?_ calls seen
      exact congrArg Store.unnumbered (rollback_store server t)

end Steps

variable {hashtext : String → Int}

/-- Whatever the interleaving, the answers of the requests and the tables they leave are those of
the same requests run one at a time, in an order in which no request comes before one that had been
answered when it arrived. A failed request takes no part in it. -/
theorem mutations_linearizable (actions : List Action) (final : Server)
    (unseen : Every (step hashtext) (fun server action => overwritesUnseenRow server action = false)
      Server.initial actions)
    (ran : run (step hashtext) Server.initial actions = some final) :
    Linearizable applyUnnumbered Store.empty
      (observed (step hashtext) mutationEvent Server.initial actions) final.store.unnumbered :=
  linearizable_of_moves (fun _ _ _ tracked ok stepped => tracked_step tracked ok stepped)
    (fun _ _ _ tracked ok stepped => Tracked.moves tracked ok stepped) tracked_initial rfl rfl unseen ran

section Samples

def strayEditOvertaken : List Action :=
  .postItem 0 .node "account" "vault" (sampleMutation "m0" "other" "b64:AAAA" 0) 1000 ::
    List.replicate 10 (.statement 0) ++
  .postItem 3 .rust "account" "vault" (sampleMutation "m333" "item" "b64:AwAA" 5) 2000 ::
    List.replicate 6 (.statement 3) ++
  .postItem 1 .node "account" "vault" (sampleMutation "m1" "item" "b64:AQAA" 0) 3000 ::
    .postItem 2 .node "account" "vault" (sampleMutation "m22" "item" "b64:AgAA" 0) 4000 ::
    (List.replicate 10 (.statement 1) ++ List.replicate 8 (.statement 2) ++ [.statement 3])

theorem mutations_linearizable_strayEditOvertaken :
    ∃ final, run (step lengthHash) Server.initial strayEditOvertaken = some final ∧
      (operations (observed (step lengthHash) mutationEvent Server.initial
        strayEditOvertaken)).map (fun operation => operation.answer.statusCode) =
          [201, 201, 409, 400] ∧
      Linearizable applyUnnumbered Store.empty
        (observed (step lengthHash) mutationEvent Server.initial strayEditOvertaken)
        final.store.unnumbered := by
  have ran : run (step lengthHash) Server.initial strayEditOvertaken = some _ :=
    run_reached (by decide +kernel)
  refine ⟨_, ran, by decide +kernel, ?_⟩
  exact mutations_linearizable strayEditOvertaken _ (by decide +kernel) ran

end Samples

end ZenPass.Sync
