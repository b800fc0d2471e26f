import ZenPass.Sync.Alone

set_option autoImplicit false

namespace ZenPass.Sync

open Wire ReadCommitted Transition

structure SameTables (store store' : Store) : Prop where
  owners : store'.owners = store.owners
  rows : store'.rows = store.rows
  outcomes : store'.outcomes = store.outcomes

theorem SameTables.refl (store : Store) : SameTables store store := ⟨rfl, rfl, rfl⟩

def ApplyOutcome.Rejects (outcome : ApplyOutcome) : Prop :=
  outcome.statusCode ≠ 201 ∧ outcome.statusCode ≠ 409

/-- Node commits the new vault of a mutation that edits an item nobody has created. -/
def ClaimsVault (store : Store) (backend : Backend) (accountId vaultId : Id) (mutation : Mutation)
    (now : Timestamp) : Prop :=
  backend = .node ∧ (postItem backend accountId vaultId mutation now).isSome = true ∧
    store.outcomes (accountId, mutation.mutationId) = none ∧
    store.owners mutation.vaultId = none ∧
    store.rows (mutation.vaultId, mutation.itemId) = none ∧ mutation.baseRevision ≠ 0

section

variable {store : Store} {request : Tx}

theorem ensureVaultOwnership_sameTables :
    SameTables store (store.ensureVaultOwnership request) ↔
      (store.owners request.vaultKey).isSome = true := by
  unfold Store.ensureVaultOwnership
  by_cases present : (store.owners request.vaultKey).isSome = true
  · simp [present, SameTables.refl]
  · rw [if_neg present]
    constructor
    · intro same
      have claimed := congrFun same.owners request.vaultKey
      simp only [Function.update_self] at claimed
      rw [← claimed]
      rfl
    · intro contra
      exact absurd contra present

theorem applyMutation_rejects (rejects : (applyMutation store request).2.Rejects) :
    SameTables store (applyMutation store request).1 ↔
      ¬ (request.backend = .node ∧ store.outcomes request.outcomeKey = none ∧
        store.owners request.vaultKey = none ∧ store.rows request.itemKey = none ∧
        request.mutation.baseRevision ≠ 0) := by
  cases fresh : store.outcomes request.outcomeKey with
  | some row =>
      rw [applyMutation_replay fresh]
      simp [SameTables.refl]
  | none =>
      by_cases owner :
          (store.ensureVaultOwnership request).owners request.vaultKey = some request.accountId
      · have result := applyMutation_compared fresh owner rfl
        rcases compareRevision_cases request (store.rows request.itemKey) with
          ⟨absent, compared⟩ | ⟨row, body, -, compared⟩ | ⟨-, compared⟩
        · have edits : request.mutation.baseRevision ≠ 0 := by
            intro creates
            simp [compareRevision, absent, creates] at compared
          rw [compared] at result
          rw [result]
          cases node : request.backend with
          | node =>
              simp only [commits, if_true, ensureVaultOwnership_sameTables, absent, edits, ne_eq,
                not_false_eq_true, and_true, true_and]
              exact Option.isSome_iff_ne_none
          | rust => simp [commits, SameTables.refl]
        · rw [result, compared] at rejects
          exact absurd rfl rejects.2
        · rw [result, compared] at rejects
          exact absurd rfl rejects.1
      · have result : applyMutation store request = (store, .notFound) := by
          simp [applyMutation, fresh, owner]
        rw [result]
        refine ⟨fun _ condition => owner ?_, fun _ => SameTables.refl store⟩
        simp [Store.ensureVaultOwnership, condition.2.2.1]

theorem applyMutation_badRequest (fresh : store.outcomes request.outcomeKey = none)
    (unowned : store.owners request.vaultKey = none) (absent : store.rows request.itemKey = none)
    (edits : request.mutation.baseRevision ≠ 0) :
    (applyMutation store request).2 = .badRequest := by
  have owner : (store.ensureVaultOwnership request).owners request.vaultKey =
      some request.accountId := by
    simp [Store.ensureVaultOwnership, unowned]
  rw [applyMutation_compared fresh owner absent]
  have compared : (compareRevision request none).phase = .finish .badRequest := by
    simp [compareRevision, edits]
  rw [compared]

end

/-- Where a request stands that no other one overlaps. -/
inductive Standing (store : Store) (request : Tx) (server : Server) : Prop where
  | serving (tx : Tx) (serving : Serving store tx server)
      (follows : Follows store request tx server.vaultChangeSequence)
  | ended (ended : Ended (applyMutation store request) request server)
  | failed (txs : server.txs = fun _ => none) (tables : SameTables store server.store)

section

variable {store : Store} {request : Tx} {server next final : Server}

theorem step_closed {hashtext : String → Int} {action : Action}
    (mine : action = .statement 0 ∨ action = .fail 0) (txs : server.txs = fun _ => none) :
    step hashtext server action = none := by
  rcases mine with rfl | rfl <;> simp [step, txs]

theorem run_closed {hashtext : String → Int} {actions : List Action}
    (mine : ∀ action ∈ actions, action = .statement 0 ∨ action = .fail 0)
    (txs : server.txs = fun _ => none) (ran : run (step hashtext) server actions = some final) :
    final = server := by
  cases actions with
  | nil =>
      cases ran
      rfl
  | cons action rest =>
      rw [run_cons, step_closed (mine action (by simp)) txs] at ran
      cases ran

theorem Serving.fails {tx : Tx} (serving : Serving store tx server) :
    Standing store request
      (((server.rollback 0).settle { tx with recorded := none } .failed).releaseLocks 0) := by
  apply Standing.failed
  · change Function.update server.txs 0 none = _
    rw [serving.txs, Function.update_idem]
    exact Function.update_eq_self 0 _
  · change SameTables store (server.rollback 0).store
    rw [serving.rollback]
    exact ⟨rfl, rfl, rfl⟩

variable (hashtext : String → Int)

theorem standing_step (arrived : request.Arrived) {action : Action}
    (mine : action = .statement 0 ∨ action = .fail 0) (standing : Standing store request server)
    (stepped : step hashtext server action = some next) : Standing store request next := by
  cases standing with
  | serving tx serving follows =>
      rcases mine with rfl | rfl
      · rw [step, serving.opened] at stepped
        rcases serving.advances arrived follows (statement_cases stepped) with
          ⟨tx', there, goesOn⟩ | ended
        · exact .serving tx' there goesOn
        · exact .ended ended
      · rw [step, serving.opened] at stepped
        cases stepped
        exact serving.fails
  | ended ended =>
      rw [step_closed mine ended.txs] at stepped
      cases stepped
  | failed txs tables =>
      rw [step_closed mine txs] at stepped
      cases stepped

theorem standing_run (arrived : request.Arrived) {actions : List Action}
    (mine : ∀ action ∈ actions, action = .statement 0 ∨ action = .fail 0)
    (standing : Standing store request server)
    (ran : run (step hashtext) server actions = some final) : Standing store request final := by
  induction actions generalizing server with
  | nil =>
      cases ran
      exact standing
  | cons action rest ih =>
      rw [run_cons, Option.bind_eq_some_iff] at ran
      obtain ⟨next, stepped, ran⟩ := ran
      have later := standing_step hashtext arrived (mine action (by simp)) standing stepped
      exact ih (fun other member => mine other (by simp [member])) later ran

end

variable (hashtext : String → Int)

def LeavesNoTrace (database : Database) (backend : Backend) (accountId vaultId : Id)
    (mutation : Mutation) (now : Timestamp) : Prop :=
  ∀ (actions : List Action) (final : Server),
    (∀ action ∈ actions, action = .statement 0 ∨ action = .fail 0) →
    run (step hashtext) database.server
      (.postItem 0 backend accountId vaultId mutation now :: actions) = some final →
    ∀ entry ∈ final.settled, entry.outcome.Rejects → SameTables database.toStore final.store

/-- Rejected mutations leave no trace, but for the vault that Node commits. -/
theorem rejected_leaves_no_trace (database : Database) (backend : Backend)
    (accountId vaultId : Id) (mutation : Mutation) (now : Timestamp) :
    LeavesNoTrace hashtext database backend accountId vaultId mutation now ↔
      ¬ ClaimsVault database.toStore backend accountId vaultId mutation now := by
  unfold LeavesNoTrace ClaimsVault
  cases checked : postItem backend accountId vaultId mutation now with
  | none =>
      -- The handler's own checks come before any statement.
      refine ⟨fun _ condition => by simp at condition, fun _ actions final mine ran => ?_⟩
      intro entry member rejects
      rw [run_cons] at ran
      simp only [step, checked] at ran
      rw [run_closed mine rfl ran]
      exact SameTables.refl _
  | some request =>
      have arrived := postItem_arrived checked
      obtain ⟨rfl, rfl, rfl⟩ := postItem_request checked
      have opened : step hashtext database.server
          (.postItem 0 request.backend request.accountId vaultId request.mutation now) =
            some (database.server.resume 0 request) := by
        simp only [step, checked]
        rfl
      constructor
      · rintro noTrace ⟨node, -, fresh, unowned, absent, edits⟩
        have refused := applyMutation_badRequest fresh unowned absent edits
        have rejects : (applyMutation database.toStore request).2.Rejects := by
          rw [refused]
          exact ⟨by decide, by decide⟩
        obtain ⟨count, final, ran, ended⟩ := database.completes hashtext arrived
        obtain ⟨flag, settled⟩ := ended.settled
        have same := noTrace (List.replicate count (.statement 0)) final
          (fun action member => .inl (List.eq_of_mem_replicate member))
          (by rw [run_cons, opened]; exact ran) _ (by rw [settled]; exact List.mem_singleton_self _)
          rejects
        rw [ended.store] at same
        exact (applyMutation_rejects rejects).mp same ⟨node, fresh, unowned, absent, edits⟩
      · intro unclaimed actions final mine ran entry member rejects
        rw [run_cons, opened] at ran
        have start : Standing database.toStore request (database.server.resume 0 request) :=
          .serving request (database.serving arrived) (database.follows arrived)
        cases standing_run hashtext arrived mine start ran with
        | serving tx serving =>
            rw [serving.settled] at member
            cases member
        | ended ended =>
            obtain ⟨flag, settled⟩ := ended.settled
            rw [settled, List.mem_singleton] at member
            subst member
            rw [ended.store]
            apply (applyMutation_rejects rejects).mpr
            rintro ⟨node, rest⟩
            exact unclaimed ⟨node, rfl, rest⟩
        | failed txs tables => exact tables

section Samples

def emptyDatabase : Database where
  toStore := Store.empty
  keyed := by
    intro key row found
    cases found

def strayEdit : List Action :=
  .postItem 0 .node "account" "vault" (sampleMutation "m1" "item" "b64:AQAA" 1) 1000 ::
    List.replicate 7 (.statement 0)

theorem stray_edit_claims_vault :
    ¬ ∀ (hashtext : String → Int) (database : Database) (backend : Backend)
      (accountId vaultId : Id) (mutation : Mutation) (now : Timestamp),
      LeavesNoTrace hashtext database backend accountId vaultId mutation now := by
  intro always
  have ran : run (step lengthHash) emptyDatabase.server strayEdit = some _ :=
    run_reached (by decide +kernel)
  have same := always lengthHash emptyDatabase .node "account" "vault"
    (sampleMutation "m1" "item" "b64:AQAA" 1) 1000 (List.replicate 7 (.statement 0)) _
    (fun action member => .inl (List.eq_of_mem_replicate member)) ran
    ⟨"account", sampleMutation "m1" "item" "b64:AQAA" 1, .badRequest, false⟩
    (by decide +kernel) ⟨by decide, by decide⟩
  have owner := congrFun same.owners "vault"
  revert owner
  decide +kernel

end Samples

end ZenPass.Sync
