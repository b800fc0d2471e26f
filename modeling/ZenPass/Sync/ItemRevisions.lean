import Mathlib.Data.List.Range
import ZenPass.Sync.Ledger

set_option autoImplicit false

namespace ZenPass.Sync

open Wire Transition

theorem Lineage.length {history : List Acceptance} {current : Option ItemRow}
    (lineage : Lineage history current) : history.length = revisionOf current := by
  induction lineage with
  | empty => rfl
  | accept last row backend earlier based next ciphertext deleted item ih =>
      change _ = row.revision
      rw [next, ← ih, List.length_append, List.length_singleton]

theorem Lineage.bases {history : List Acceptance} {current : Option ItemRow}
    (lineage : Lineage history current) :
    history.map (fun acceptance => acceptance.mutation.baseRevision) =
      (List.range history.length).map Int.ofNat := by
  induction lineage with
  | empty => rfl
  | accept last row backend earlier based next ciphertext deleted item ih =>
      rw [List.map_append, ih, List.length_append, List.length_singleton, List.range_succ,
        List.map_append, List.map_singleton, List.map_singleton, based, ← earlier.length]
      rfl

theorem Lineage.revisions {history : List Acceptance} {current : Option ItemRow}
    (lineage : Lineage history current) :
    history.map (fun acceptance => acceptance.item.revision) = List.range' 1 history.length := by
  induction lineage with
  | empty => rfl
  | @accept history current last row backend earlier based next ciphertext deleted item ih =>
      have revision : last.item.revision = 1 + 1 * history.length := by
        rw [item, earlier.length, Nat.one_mul, Nat.add_comm]
        exact next
      rw [List.map_append, ih, List.length_append, List.length_singleton, List.range'_concat,
        List.map_singleton, revision]

theorem Lineage.last {history : List Acceptance} {row : ItemRow}
    (lineage : Lineage history (some row)) :
    ∃ last backend, history.getLast? = some last ∧ last.item = toItemRecord backend row ∧
      decodeB64 (backend == .rust) last.mutation.ciphertext = some row.ciphertext ∧
      row.deleted = last.mutation.deleted := by
  cases lineage with
  | accept last _ backend earlier based next ciphertext deleted item =>
      exact ⟨last, backend, by simp, item, ciphertext, deleted⟩

theorem acceptance_eq_some {key : Id × Id} {entry : Settled} {a : Acceptance} :
    acceptance key entry = some a ↔
      entry.fresh = true ∧ entry.outcome = .response 201 (.record a.item) ∧
        (a.item.vaultId, a.item.itemId) = key ∧ a.accountId = entry.accountId ∧
        a.mutation = entry.mutation := by
  obtain ⟨accountId, mutation, item⟩ := a
  unfold acceptance
  split
  · rename_i record fresh outcome
    rw [fresh, outcome]
    split
    · simp only [Option.some.injEq, Acceptance.mk.injEq, ApplyOutcome.response.injEq,
        ResponseBody.record.injEq, true_and]
      constructor
      · rintro ⟨rfl, rfl, rfl⟩
        exact ⟨rfl, ‹_›, rfl, rfl⟩
      · rintro ⟨rfl, -, rfl, rfl⟩
        exact ⟨rfl, rfl, rfl⟩
    · rename_i elsewhere
      simp only [reduceCtorEq, false_iff]
      rintro ⟨-, same, key, -⟩
      simp only [ApplyOutcome.response.injEq, ResponseBody.record.injEq, true_and] at same
      exact elsewhere (same ▸ key)
  · rename_i other
    simp only [reduceCtorEq, false_iff]
    rintro ⟨fresh, outcome, -⟩
    exact other item fresh outcome

def Acceptance.outcomeKey (a : Acceptance) : Id × Id := (a.accountId, a.mutation.mutationId)

/-- The mutations of an item that end with 201. A replay is answered with what was recorded, so
every 201 belongs to one of them. -/
structure NoLostRevision (server : Server) (key : Id × Id) : Prop where
  revisions : (acceptances server.settled key).map (fun a => a.item.revision) =
    List.range' 1 (acceptances server.settled key).length
  bases : (acceptances server.settled key).map (fun a => a.mutation.baseRevision) =
    (List.range (acceptances server.settled key).length).map Int.ofNat
  once : ((acceptances server.settled key).map Acceptance.outcomeKey).Nodup
  answered : ∀ entry ∈ server.settled, ∀ body, entry.outcome = .response 201 body →
    ∃ item, body = .record item ∧ ∃ a ∈ acceptances server.settled (item.vaultId, item.itemId),
      a.item = item ∧ a.outcomeKey = entry.outcomeKey
  distinct : ∀ first ∈ server.settled, ∀ second ∈ server.settled, ∀ item item',
    first.outcome = .response 201 (.record item) → second.outcome = .response 201 (.record item') →
    (item.vaultId, item.itemId) = key → (item'.vaultId, item'.itemId) = key →
    item.revision = item'.revision → first.outcomeKey = second.outcomeKey
  stored : ∀ row, server.rows key = some row → ∃ last backend,
    (acceptances server.settled key).getLast? = some last ∧
      last.item = toItemRecord backend row ∧
      decodeB64 (backend == .rust) last.mutation.ciphertext = some row.ciphertext ∧
      row.deleted = last.mutation.deleted

section NoLostRevision

variable {server : Server}

theorem Ledger.answered_acceptance (ledger : Ledger server) {entry : Settled}
    (member : entry ∈ server.settled) {body : ResponseBody}
    (given : entry.outcome = .response 201 body) :
    ∃ item, body = .record item ∧ ∃ a ∈ acceptances server.settled (item.vaultId, item.itemId),
      a.item = item ∧ a.outcomeKey = entry.outcomeKey := by
  obtain ⟨vaultId, found⟩ := ledger.answered entry member 201 body given
  obtain ⟨origin, here, fresh, key, outcome⟩ := ledger.recorded _ _ found
  obtain ⟨item, rfl⟩ := ledger.created origin here fresh body outcome
  refine ⟨item, rfl, ⟨origin.accountId, origin.mutation, item⟩, ?_, rfl, key⟩
  exact List.mem_filterMap.mpr
    ⟨origin, here, acceptance_eq_some.mpr ⟨fresh, outcome, rfl, rfl, rfl⟩⟩

theorem acceptances_outcomeKey_sublist (settled : List Settled) (key : Id × Id) :
    ((acceptances settled key).map Acceptance.outcomeKey).Sublist
      ((settled.filter Settled.fresh).map Settled.outcomeKey) := by
  induction settled with
  | nil => exact List.Sublist.slnil
  | cons entry rest ih =>
      cases found : acceptance key entry with
      | none =>
          rw [acceptances, List.filterMap_cons_none found]
          by_cases fresh : entry.fresh = true
          · rw [List.filter_cons_of_pos fresh]
            exact ih.cons _
          · rw [List.filter_cons_of_neg fresh]
            exact ih
      | some a =>
          obtain ⟨fresh, -, -, account, mutation⟩ := acceptance_eq_some.mp found
          have same : a.outcomeKey = entry.outcomeKey := by
            rw [Acceptance.outcomeKey, Settled.outcomeKey, account, mutation]
          rw [acceptances, List.filterMap_cons_some found, List.filter_cons_of_pos fresh,
            List.map_cons, List.map_cons, same]
          exact ih.cons_cons _

theorem Lineage.revision_injective {history : List Acceptance} {current : Option ItemRow}
    (lineage : Lineage history current) {a b : Acceptance} (ha : a ∈ history) (hb : b ∈ history)
    (same : a.item.revision = b.item.revision) : a = b := by
  have nodup : (history.map fun acceptance => acceptance.item.revision).Nodup := by
    rw [lineage.revisions]
    exact List.nodup_range'
  exact List.inj_on_of_nodup_map nodup ha hb same

theorem Consistent.noLostRevision (consistent : Consistent server) (key : Id × Id) :
    NoLostRevision server key where
  revisions := (consistent.ledger.lineage key).revisions
  bases := (consistent.ledger.lineage key).bases
  once := consistent.ledger.once.sublist (acceptances_outcomeKey_sublist server.settled key)
  answered := fun _ member _ given => consistent.ledger.answered_acceptance member given
  distinct := by
    intro first here second there item item' given given' key₁ key₂ revision
    obtain ⟨_, same, a, ha, itemA, keyA⟩ := consistent.ledger.answered_acceptance here given
    obtain ⟨_, same', b, hb, itemB, keyB⟩ := consistent.ledger.answered_acceptance there given'
    cases same
    cases same'
    rw [key₁] at ha
    rw [key₂] at hb
    have equal := (consistent.ledger.lineage key).revision_injective ha hb
      (by rw [itemA, itemB, revision])
    rw [← keyA, ← keyB, equal]
  stored := by
    intro row found
    have lineage := consistent.ledger.lineage key
    rw [found] at lineage
    exact lineage.last

end NoLostRevision

variable (hashtext : String → Int)

theorem consistent_run {actions : List Action} {final : Server}
    (seen : Every (step hashtext) (fun server action => overwritesUnseenRow server action = false)
      Server.initial actions)
    (ran : run (step hashtext) Server.initial actions = some final) : Consistent final :=
  run_invariant (fun _ _ _ consistent ok stepped => consistent_step consistent ok stepped)
    consistent_initial seen ran

/-- Whatever the interleaving, as long as no upsert of a transaction that saw no item row meets a
row that another transaction has committed since. -/
theorem no_lost_revision (actions : List Action) (final : Server)
    (seen : Every (step hashtext) (fun server action => overwritesUnseenRow server action = false)
      Server.initial actions)
    (ran : run (step hashtext) Server.initial actions = some final) (key : Id × Id) :
    NoLostRevision final key :=
  (consistent_run hashtext seen ran).noLostRevision key

section Samples

def edits : List Action :=
  .postItem 0 .node "account" "vault" (sampleMutation "m0" "other" "b64:AAAA" 0) 1000 ::
    List.replicate 10 (.statement 0) ++
  .postItem 1 .node "account" "vault" (sampleMutation "m1" "item" "b64:AQAA" 0) 2000 ::
    .postItem 2 .rust "account" "vault" (sampleMutation "m22" "item" "b64:AgAA" 1) 3000 ::
    (List.replicate 10 (.statement 1) ++ List.replicate 10 (.statement 2))

theorem no_lost_revision_edits :
    ∃ final, run (step lengthHash) Server.initial edits = some final ∧
      (acceptances final.settled ("vault", "item")).length = 2 ∧
      NoLostRevision final ("vault", "item") := by
  have ran : run (step lengthHash) Server.initial edits = some _ := run_reached (by decide +kernel)
  refine ⟨_, ran, by decide +kernel, ?_⟩
  exact no_lost_revision lengthHash edits _ (by decide +kernel) ran _

def overlappingFirstMutations : List Action :=
  .postItem 0 .node "account" "vault" (sampleMutation "m0" "other" "b64:AAAA" 0) 1000 ::
    List.replicate 10 (.statement 0) ++
  .postItem 1 .node "account" "vault" (sampleMutation "m1" "item" "b64:AQAA" 0) 2000 ::
    .postItem 2 .rust "account" "vault" (sampleMutation "m22" "item" "b64:AgAA" 0) 3000 ::
    (List.replicate 6 (.statement 1) ++ List.replicate 6 (.statement 2) ++
      List.replicate 4 (.statement 1) ++ List.replicate 4 (.statement 2))

/-- Both are answered 201 with revision 1, and the second ciphertext replaces the first. -/
theorem overlapping_first_mutations_lose_revision :
    ¬ ∀ (hashtext : String → Int) (actions : List Action) (final : Server),
      run (step hashtext) Server.initial actions = some final →
        ∀ key, NoLostRevision final key := by
  intro always
  have ran : run (step lengthHash) Server.initial overlappingFirstMutations = some _ :=
    run_reached (by decide +kernel)
  have revisions := (always lengthHash overlappingFirstMutations _ ran ("vault", "item")).revisions
  revert revisions
  decide +kernel

end Samples

end ZenPass.Sync
