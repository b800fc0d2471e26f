import ZenPass.Sync.Locks

set_option autoImplicit false

namespace ZenPass.Sync

open Wire ReadCommitted

def Settled.outcomeKey (entry : Settled) : Id × Id := (entry.accountId, entry.mutation.mutationId)

def Tx.Decoded (tx : Tx) : Prop :=
  decodeB64 (tx.backend == .rust) tx.mutation.ciphertext = some tx.ciphertext

/-- The outcome that a transaction is about to record, against the committed rows. -/
inductive Decided (rows : Id × Id → Option ItemRow) (tx : Tx) : Nat → ResponseBody → Prop where
  | conflict (row : ItemRow) (body : ResponseBody) (item : tx.item = some row)
      (current : rows tx.itemKey = some row) : Decided rows tx 409 body
  | accepted (row : ItemRow) (item : tx.item = some row)
      (content : row.ciphertext = tx.ciphertext ∧ row.deleted = tx.mutation.deleted)
      (next : row.revision = revisionOf (rows tx.itemKey) + 1)
      (based : tx.mutation.baseRevision = revisionOf (rows tx.itemKey)) :
      Decided rows tx 201 (.record (toItemRecord tx.backend row))

def Stage (rows : Id × Id → Option ItemRow) (outcomes : Id × Id → Option MutationOutcome)
    (tx : Tx) : Prop :=
  match tx.phase with
  | .nextval | .upsertItem _ =>
      tx.mutation.baseRevision = revisionOf tx.item ∧
        ∀ row, tx.item = some row → rows tx.itemKey = some row
  | .recordMutationOutcome statusCode body => Decided rows tx statusCode body
  | .finish (.response statusCode body) =>
      (tx.item = none ∧ tx.recorded = none ∧
        ∃ vaultId, outcomes tx.outcomeKey = some ⟨vaultId, statusCode, body⟩) ∨
      (tx.recorded = some ⟨tx.mutation.vaultId, statusCode, body⟩ ∧
        outcomes tx.outcomeKey = none ∧ Decided rows tx statusCode body)
  | _ => True

structure Acceptance where
  accountId : Id
  mutation : Mutation
  item : ItemRecord
deriving DecidableEq, Repr

def acceptance (key : Id × Id) (entry : Settled) : Option Acceptance :=
  match entry.fresh, entry.outcome with
  | true, .response 201 (.record item) =>
      if (item.vaultId, item.itemId) = key then some ⟨entry.accountId, entry.mutation, item⟩ else none
  | _, _ => none

def acceptances (settled : List Settled) (key : Id × Id) : List Acceptance :=
  settled.filterMap (acceptance key)

/-- Each accepted mutation is based on the row that the one before it left; the last one left
the row that is there. -/
inductive Lineage : List Acceptance → Option ItemRow → Prop where
  | empty : Lineage [] none
  | accept {history : List Acceptance} {current : Option ItemRow} (last : Acceptance)
      (row : ItemRow) (backend : Backend) (earlier : Lineage history current)
      (based : last.mutation.baseRevision = revisionOf current)
      (next : row.revision = revisionOf current + 1)
      (ciphertext : decodeB64 (backend == .rust) last.mutation.ciphertext = some row.ciphertext)
      (deleted : row.deleted = last.mutation.deleted)
      (item : last.item = toItemRecord backend row) : Lineage (history ++ [last]) (some row)

/-- The responses given so far and the rows of `mutation_outcomes`. -/
structure Ledger (server : Server) : Prop where
  fresh_response : ∀ entry ∈ server.settled, entry.fresh = true →
    ∃ statusCode body, entry.outcome = .response statusCode body
  answered : ∀ entry ∈ server.settled, ∀ statusCode body,
    entry.outcome = .response statusCode body →
      ∃ vaultId, server.recordedOutcome entry.outcomeKey = some ⟨vaultId, statusCode, body⟩
  recorded : ∀ key outcome, server.recordedOutcome key = some outcome →
    ∃ entry ∈ server.settled, entry.fresh = true ∧ entry.outcomeKey = key ∧
      entry.outcome = .response outcome.statusCode outcome.responseBody
  once : ((server.settled.filter Settled.fresh).map Settled.outcomeKey).Nodup
  created : ∀ entry ∈ server.settled, entry.fresh = true → ∀ body,
    entry.outcome = .response 201 body → ∃ item, body = .record item
  lineage : ∀ key, Lineage (acceptances server.settled key) (server.rows key)

structure Consistent (server : Server) : Prop where
  locked : Locked server
  stage : ∀ t tx, server.txs t = some tx → Stage server.rows server.recordedOutcome tx
  decoded : ∀ t tx, server.txs t = some tx → tx.Decoded
  ledger : Ledger server

/-- The branch that loses a revision: the insert arm was planned, the row is there by now. -/
def overwritesUnseenRow (server : Server) : Action → Bool
  | .statement t =>
      match server.txs t with
      | some tx =>
          match tx.phase with
          | .upsertItem _ => tx.item.isNone && (server.rows tx.itemKey).isSome
          | _ => false
      | none => false
  | _ => false

theorem consistent_initial : Consistent Server.initial where
  locked := locked_initial
  stage := by intro t tx opened; cases opened
  decoded := by intro t tx opened; cases opened
  ledger := by
    constructor <;> simp [Server.initial, Server.rows, Server.recordedOutcome, acceptances, Lineage.empty]

section Resume

variable {server server' : Server} {t : TxId} {tx tx' : Tx}

theorem SameRequest.decoded (same : SameRequest tx tx') (decoded : tx.Decoded) : tx'.Decoded := by
  unfold Tx.Decoded
  rw [same.backend, same.mutation, same.ciphertext]
  exact decoded

theorem Ledger.of_eq (ledger : Ledger server) (rows : server'.rows = server.rows)
    (outcomes : server'.recordedOutcome = server.recordedOutcome)
    (settled : server'.settled = server.settled) : Ledger server' where
  fresh_response := by rw [settled]; exact ledger.fresh_response
  answered := by rw [settled, outcomes]; exact ledger.answered
  recorded := by rw [settled, outcomes]; exact ledger.recorded
  once := by rw [settled]; exact ledger.once
  created := by rw [settled]; exact ledger.created
  lineage := by rw [settled, rows]; exact ledger.lineage

theorem Consistent.resume (consistent : Consistent server) (rows : server'.rows = server.rows)
    (outcomes : server'.recordedOutcome = server.recordedOutcome)
    (settled : server'.settled = server.settled) (txs : server'.txs = server.txs)
    (locked : Locked (server'.resume t tx'))
    (stage : Stage server.rows server.recordedOutcome tx') (decoded : tx'.Decoded) :
    Consistent (server'.resume t tx') where
  locked := locked
  stage := by
    have before : ∀ u other, server'.txs u = some other →
        Stage server.rows server.recordedOutcome other := by
      rw [txs]
      exact consistent.stage
    change ∀ u other, _ → Stage server'.rows server'.recordedOutcome other
    rw [rows, outcomes]
    exact forall_resume before stage
  decoded := forall_resume (by rw [txs]; exact consistent.decoded) decoded
  ledger := consistent.ledger.of_eq rows outcomes settled

end Resume

section Ending

variable {server server' : Server} {t : TxId} {tx : Tx} {outcome : ApplyOutcome}

theorem acceptances_append_stale (settled : List Settled) (entry : Settled)
    (stale : entry.fresh = false) (key : Id × Id) :
    acceptances (settled ++ [entry]) key = acceptances settled key := by
  simp [acceptances, acceptance, stale]

theorem Ledger.replayed (ledger : Ledger server) (entry : Settled)
    (rows : server'.rows = server.rows)
    (outcomes : server'.recordedOutcome = server.recordedOutcome)
    (settled : server'.settled = server.settled ++ [entry]) (stale : entry.fresh = false)
    (known : ∀ statusCode body, entry.outcome = .response statusCode body →
      ∃ vaultId, server.recordedOutcome entry.outcomeKey = some ⟨vaultId, statusCode, body⟩) :
    Ledger server' where
  fresh_response := by
    intro other member fresh
    rw [settled, List.mem_append, List.mem_singleton] at member
    obtain member | rfl := member
    · exact ledger.fresh_response other member fresh
    · simp [stale] at fresh
  answered := by
    intro other member
    rw [settled, List.mem_append, List.mem_singleton] at member
    rw [outcomes]
    obtain member | rfl := member
    · exact ledger.answered other member
    · exact known
  recorded := by
    intro key row found
    rw [outcomes] at found
    obtain ⟨other, member, rest⟩ := ledger.recorded key row found
    exact ⟨other, by simp [settled, member], rest⟩
  once := by
    rw [settled]
    simpa [List.filter_append, stale] using ledger.once
  created := by
    intro other member fresh
    rw [settled, List.mem_append, List.mem_singleton] at member
    obtain member | rfl := member
    · exact ledger.created other member fresh
    · simp [stale] at fresh
  lineage := by
    intro key
    rw [settled, rows, acceptances_append_stale _ _ stale]
    exact ledger.lineage key

theorem Ledger.appended (ledger : Ledger server) (entry : Settled) (row : MutationOutcome)
    (outcomes : server'.recordedOutcome =
      Function.update server.recordedOutcome entry.outcomeKey (some row))
    (settled : server'.settled = server.settled ++ [entry]) (fresh : entry.fresh = true)
    (response : entry.outcome = .response row.statusCode row.responseBody)
    (absent : server.recordedOutcome entry.outcomeKey = none)
    (created : row.statusCode = 201 → ∃ item, row.responseBody = .record item)
    (lineage : ∀ key, Lineage (acceptances (server.settled ++ [entry]) key) (server'.rows key)) :
    Ledger server' where
  lineage := by rw [settled]; exact lineage
  created := by
    intro other member isFresh body given
    rw [settled, List.mem_append, List.mem_singleton] at member
    obtain member | rfl := member
    · exact ledger.created other member isFresh body given
    · rw [response, ApplyOutcome.response.injEq] at given
      obtain ⟨is201, rfl⟩ := given
      exact created is201
  fresh_response := by
    intro other member isFresh
    rw [settled, List.mem_append, List.mem_singleton] at member
    obtain member | rfl := member
    · exact ledger.fresh_response other member isFresh
    · exact ⟨_, _, response⟩
  answered := by
    intro other member statusCode body given
    rw [settled, List.mem_append, List.mem_singleton] at member
    rw [outcomes]
    obtain member | rfl := member
    · obtain ⟨vaultId, found⟩ := ledger.answered other member statusCode body given
      refine ⟨vaultId, ?_⟩
      rw [Function.update_of_ne, found]
      intro same
      rw [same, absent] at found
      cases found
    · rw [response, ApplyOutcome.response.injEq] at given
      obtain ⟨rfl, rfl⟩ := given
      exact ⟨row.vaultId, by simp⟩
  recorded := by
    intro key found member
    rw [outcomes] at member
    by_cases same : key = entry.outcomeKey
    · subst same
      simp only [Function.update_self, Option.some.injEq] at member
      subst member
      exact ⟨entry, by simp [settled], fresh, rfl, response⟩
    · rw [Function.update_of_ne same] at member
      obtain ⟨other, here, rest⟩ := ledger.recorded key found member
      exact ⟨other, by simp [settled, here], rest⟩
  once := by
    rw [settled]
    simp only [List.filter_append, List.map_append, List.nodup_append, List.filter_cons, fresh,
      if_true, List.filter_nil, List.map_cons, List.map_nil, List.mem_singleton]
    refine ⟨ledger.once, List.nodup_singleton _, ?_⟩
    rintro key member _ rfl rfl
    rw [List.mem_map] at member
    obtain ⟨other, member, same⟩ := member
    rw [List.mem_filter] at member
    obtain ⟨statusCode, body, given⟩ := ledger.fresh_response other member.1 member.2
    obtain ⟨vaultId, found⟩ := ledger.answered other member.1 statusCode body given
    rw [same, absent] at found
    cases found

theorem Stage.of_eq {rows rows' : Id × Id → Option ItemRow}
    {outcomes outcomes' : Id × Id → Option MutationOutcome} (stage : Stage rows outcomes tx)
    (item : tx.item.isSome → rows' tx.itemKey = rows tx.itemKey)
    (kept : ∀ row, outcomes tx.outcomeKey = some row → outcomes' tx.outcomeKey = some row)
    (recorded : tx.recorded.isSome → outcomes' tx.outcomeKey = outcomes tx.outcomeKey) :
    Stage rows' outcomes' tx := by
  have decided : ∀ statusCode body, Decided rows tx statusCode body →
      Decided rows' tx statusCode body := by
    intro statusCode body holds
    cases holds with
    | conflict row body here current =>
        exact .conflict row body here (by rw [item (by simp [here]), current])
    | accepted row here content next based =>
        have same := item (by simp [here])
        exact .accepted row here content (by rw [same, next]) (by rw [same, based])
  unfold Stage at stage ⊢
  split at stage
  · refine ⟨stage.1, fun row here => ?_⟩
    rw [item (by simp [here])]
    exact stage.2 row here
  · refine ⟨stage.1, fun row here => ?_⟩
    rw [item (by simp [here])]
    exact stage.2 row here
  · exact decided _ _ stage
  · obtain ⟨noItem, noRecord, vaultId, found⟩ | ⟨own, absent, holds⟩ := stage
    · exact .inl ⟨noItem, noRecord, vaultId, kept _ found⟩
    · exact .inr ⟨own, by rw [recorded (by simp [own]), absent], decided _ _ holds⟩
  · trivial

theorem Consistent.endsQuietly (consistent : Consistent server) (entry : Settled)
    (rows : server'.rows = server.rows)
    (outcomes : server'.recordedOutcome = server.recordedOutcome)
    (settled : server'.settled = server.settled ++ [entry])
    (txs : server'.txs = Function.update server.txs t none) (locked : Locked server')
    (stale : entry.fresh = false)
    (known : ∀ statusCode body, entry.outcome = .response statusCode body →
      ∃ vaultId, server.recordedOutcome entry.outcomeKey = some ⟨vaultId, statusCode, body⟩) :
    Consistent server' where
  locked := locked
  stage := by
    rw [rows, outcomes, txs]
    exact forall_close consistent.stage
  decoded := by
    rw [txs]
    exact forall_close consistent.decoded
  ledger := consistent.ledger.replayed entry rows outcomes settled stale known

theorem Consistent.rollsBack (consistent : Consistent server) (unrecorded : tx.recorded = none)
    (known : ∀ statusCode body, outcome = .response statusCode body →
      ∃ vaultId, server.recordedOutcome tx.outcomeKey = some ⟨vaultId, statusCode, body⟩) :
    Consistent (((server.rollback t).settle tx outcome).releaseLocks t) :=
  consistent.endsQuietly ⟨tx.accountId, tx.mutation, outcome, tx.recorded.isSome⟩
    (server.rollback_rows t) (server.rollback_outcomes t) rfl rfl
    (consistent.locked.rollback tx outcome) (by simp [unrecorded]) known

theorem Consistent.commitsQuietly (consistent : Consistent server)
    (opened : server.txs t = some tx) (item : tx.item = none) (unrecorded : tx.recorded = none)
    (known : ∀ statusCode body, outcome = .response statusCode body →
      ∃ vaultId, server.recordedOutcome tx.outcomeKey = some ⟨vaultId, statusCode, body⟩) :
    Consistent (((server.commit t).settle tx outcome).releaseLocks t) := by
  refine consistent.endsQuietly ⟨tx.accountId, tx.mutation, outcome, tx.recorded.isSome⟩ ?_ ?_ rfl rfl
    (consistent.locked.commit opened outcome) (by simp [unrecorded]) known
  · change (server.commit t).rows = _
    rw [consistent.locked.commit_rows opened, item]
  · change (server.commit t).recordedOutcome = _
    rw [consistent.locked.commit_outcomes opened, unrecorded]

theorem Decided.item {rows : Id × Id → Option ItemRow} {statusCode : Nat} {body : ResponseBody}
    (decided : Decided rows tx statusCode body) : ∃ row, tx.item = some row := by
  cases decided with
  | conflict row _ item => exact ⟨row, item⟩
  | accepted row item => exact ⟨row, item⟩

theorem Decided.created {rows : Id × Id → Option ItemRow} {statusCode : Nat} {body : ResponseBody}
    (decided : Decided rows tx statusCode body) (is201 : statusCode = 201) :
    ∃ item, body = .record item := by
  cases decided with
  | conflict => cases is201
  | accepted row => exact ⟨_, rfl⟩

theorem Decided.lineage {rows : Id × Id → Option ItemRow} {settled : List Settled}
    {statusCode : Nat} {body : ResponseBody} {row : ItemRow}
    (decided : Decided rows tx statusCode body) (item : tx.item = some row) (atKey : row.key = tx.itemKey)
    (ok : tx.Decoded)
    (earlier : ∀ key, Lineage (acceptances settled key) (rows key)) (key : Id × Id) :
    Lineage (acceptances (settled ++ [⟨tx.accountId, tx.mutation, .response statusCode body, true⟩]) key)
      (Function.update rows tx.itemKey (some row) key) := by
  cases decided with
  | conflict same _ here current =>
      rw [item, Option.some.injEq] at here
      subst here
      have unchanged : Function.update rows tx.itemKey (some row) = rows := by
        rw [← current, Function.update_eq_self]
      rw [unchanged]
      simpa [acceptances, acceptance] using earlier key
  | accepted same here content next based =>
      rw [item, Option.some.injEq] at here
      subst here
      by_cases mine : key = tx.itemKey
      · subst mine
        have recordKey : ((toItemRecord tx.backend row).vaultId, (toItemRecord tx.backend row).itemId) =
            tx.itemKey := atKey
        simp only [acceptances, List.filterMap_append, List.filterMap_cons, acceptance, recordKey,
          if_true, List.filterMap_nil, Function.update_self]
        refine .accept _ row tx.backend (earlier tx.itemKey) based next ?_ content.2 rfl
        rw [content.1]
        exact ok
      · have elsewhere :
            ((toItemRecord tx.backend row).vaultId, (toItemRecord tx.backend row).itemId) ≠ key := by
          intro same
          exact mine (same.symm.trans atKey)
        rw [Function.update_of_ne mine]
        simpa [acceptances, acceptance, elsewhere] using earlier key

theorem Consistent.publishes (consistent : Consistent server) (opened : server.txs t = some tx)
    {statusCode : Nat} {body : ResponseBody}
    (recorded : tx.recorded = some ⟨tx.mutation.vaultId, statusCode, body⟩)
    (absent : server.recordedOutcome tx.outcomeKey = none)
    (decided : Decided server.rows tx statusCode body) :
    Consistent (((server.commit t).settle tx (.response statusCode body)).releaseLocks t) := by
  obtain ⟨row, item⟩ := decided.item
  have key := consistent.locked.itemKeyed t tx opened row item
  have rows := consistent.locked.commit_rows opened
  have outcomes := consistent.locked.commit_outcomes opened
  rw [item] at rows
  rw [recorded] at outcomes
  simp only at rows outcomes
  refine ⟨consistent.locked.commit opened _, ?_, forall_close consistent.decoded, ?_⟩
  · intro u other open_
    change Function.update server.txs t none u = some other at open_
    change Stage (server.commit t).rows (server.commit t).recordedOutcome other
    by_cases mine : u = t
    · subst mine
      simp at open_
    · rw [Function.update_of_ne mine] at open_
      have stage := consistent.stage u other open_
      obtain ⟨itemKept, recordedKept⟩ := consistent.locked.commit_elsewhere opened open_ mine
      refine stage.of_eq itemKept ?_ recordedKept
      intro old found
      rw [outcomes, Function.update_of_ne, found]
      rintro same
      rw [same, absent] at found
      cases found
  · have fresh : tx.recorded.isSome = true := by rw [recorded]; rfl
    refine consistent.ledger.appended
      ⟨tx.accountId, tx.mutation, .response statusCode body, tx.recorded.isSome⟩
      ⟨tx.mutation.vaultId, statusCode, body⟩ outcomes rfl fresh rfl absent decided.created
      (fun other => ?_)
    change Lineage _ ((server.commit t).rows other)
    rw [rows, fresh]
    exact decided.lineage item key (consistent.decoded t tx opened) consistent.ledger.lineage other

end Ending

section Steps

variable {server next : Server} {t : TxId} {tx : Tx}

theorem stage_compareRevision {rows : Id × Id → Option ItemRow}
    {outcomes : Id × Id → Option MutationOutcome} (existing : Option ItemRow)
    (current : rows tx.itemKey = existing) : Stage rows outcomes (compareRevision tx existing) := by
  obtain ⟨-, result⟩ | ⟨row, body, found, result⟩ | ⟨based, result⟩ :=
    compareRevision_cases tx existing <;> rw [result]
  · trivial
  · have decided : Decided rows { tx with item := some row } 409 body :=
      .conflict row body rfl (current.trans found)
    exact .conflict row body rfl (current.trans found)
  · exact ⟨based, fun row here => current.trans here⟩

theorem Decided.written {rows : Id × Id → Option ItemRow} {row : ItemRow}
    (based : tx.mutation.baseRevision = revisionOf tx.item) (seen : rows tx.itemKey = tx.item)
    (ciphertext : row.ciphertext = tx.ciphertext) (deleted : row.deleted = tx.mutation.deleted)
    (next : row.revision = nextRevision tx) :
    Decided rows (tx.written row) 201 (.record (toItemRecord tx.backend row)) := by
  have content : row.ciphertext = (tx.written row).ciphertext ∧
      row.deleted = (tx.written row).mutation.deleted := ⟨ciphertext, deleted⟩
  have follows : row.revision = revisionOf (rows (tx.written row).itemKey) + 1 := by
    change _ = revisionOf (rows tx.itemKey) + 1
    rw [next, seen]
    rfl
  have onCurrent : (tx.written row).mutation.baseRevision =
      revisionOf (rows (tx.written row).itemKey) := by
    change tx.mutation.baseRevision = (revisionOf (rows tx.itemKey) : Nat)
    rw [seen, based]
  exact Decided.accepted row rfl content follows onCurrent

theorem Consistent.statement (consistent : Consistent server) (opened : server.txs t = some tx)
    (seen : overwritesUnseenRow server (.statement t) = false)
    (executed : Executed server t tx next) : Consistent next := by
  have locked := consistent.locked.statement opened executed
  have holds := consistent.locked.holds t tx opened
  have stage := consistent.stage t tx opened
  have decoded := consistent.decoded t tx opened
  unfold Tx.Holds at holds
  unfold Stage at stage
  cases executed with
  | replay row phase found =>
      rw [phase] at holds
      refine consistent.endsQuietly ⟨tx.accountId, tx.mutation, _, tx.recorded.isSome⟩ rfl rfl rfl rfl
        locked (by simp [holds]) ?_
      intro statusCode body given
      cases given
      exact ⟨row.vaultId, found⟩
  | noReplay phase => exact consistent.resume rfl rfl rfl rfl locked trivial decoded
  | lock key phase => exact consistent.resume rfl rfl rfl rfl locked trivial decoded
  | outcome row phase found =>
      rw [phase] at holds
      obtain ⟨vault, item, recorded⟩ := holds
      have viewed := consistent.locked.outcomes.view opened
      rw [recorded, found] at viewed
      exact consistent.resume rfl rfl rfl rfl locked
        (.inl ⟨item, recorded, row.vaultId, viewed.symm⟩) decoded
  | noOutcome phase => exact consistent.resume rfl rfl rfl rfl locked trivial decoded
  | vaultExists phase => exact consistent.resume rfl rfl rfl rfl locked trivial decoded
  | vaultInserted phase absent available =>
      exact consistent.resume rfl rfl rfl rfl locked trivial decoded
  | owner phase owned => exact consistent.resume rfl rfl rfl rfl locked trivial decoded
  | notOwner phase => exact consistent.resume rfl rfl rfl rfl locked trivial decoded
  | noItem phase absent =>
      exact consistent.resume rfl rfl rfl rfl locked (stage_compareRevision none absent)
        ((sameRequest_compareRevision tx none).decoded decoded)
  | item row phase found available =>
      exact consistent.resume (funext fun _ => Table.hold_committed _ _ _ _ _) rfl rfl rfl locked
        (stage_compareRevision _ found) ((sameRequest_compareRevision tx _).decoded decoded)
  | drawn phase =>
      rw [phase] at stage
      exact consistent.resume rfl rfl rfl rfl locked stage decoded
  | inserted proposed phase available absent =>
      rw [phase] at stage
      obtain ⟨based, current⟩ := stage
      have unseen : tx.item = none := by
        cases here : tx.item with
        | none => rfl
        | some row => exact absurd (absent.symm.trans (current row here)) (by simp)
      have saw : server.rows tx.itemKey = tx.item := absent.trans unseen.symm
      exact consistent.resume (funext fun _ => Table.hold_committed _ _ _ _ _) rfl rfl rfl locked
        (.written based saw rfl rfl rfl) decoded
  | updated proposed row phase available found =>
      rw [phase] at stage
      obtain ⟨based, current⟩ := stage
      -- A transaction that saw no row is the one the condition excludes.
      have saw : server.rows tx.itemKey = tx.item := by
        cases here : tx.item with
        | none =>
            have there : (server.rows tx.itemKey).isSome = true := by
              change (server.items tx.itemKey).committed.isSome = true
              simp [found]
            simp [overwritesUnseenRow, opened, phase, here] at seen
            rw [seen] at there
            cases there
        | some row => exact current row here
      exact consistent.resume (funext fun _ => Table.hold_committed _ _ _ _ _) rfl rfl rfl locked
        (.written based saw rfl rfl rfl) decoded
  | duplicate statusCode body row phase =>
      exact consistent.resume rfl rfl rfl rfl locked trivial decoded
  | recorded statusCode body phase available absent =>
      rw [phase] at stage holds
      have viewed := consistent.locked.outcomes.view opened
      rw [holds, absent] at viewed
      refine consistent.resume rfl (funext fun _ => Table.hold_committed _ _ _ _ _) rfl rfl locked
        (.inr ⟨rfl, viewed.symm, ?_⟩) decoded
      cases stage with
      | conflict row _ item current => exact .conflict row _ item current
      | accepted row item content next based => exact .accepted row item content next based
  | finished outcome phase =>
      rw [phase] at stage holds
      cases outcome with
      | response statusCode body =>
          obtain ⟨item, recorded, known⟩ | ⟨own, absent, decided⟩ := stage
          · refine consistent.commitsQuietly opened item recorded ?_
            intro statusCode body given
            cases given
            exact known
          · exact consistent.publishes opened own absent decided
      | failed => exact consistent.rollsBack holds (by simp)
      | notFound =>
          split
          · exact consistent.commitsQuietly opened holds.1 holds.2 (by simp)
          · exact consistent.rollsBack holds.2 (by simp)
      | badRequest =>
          split
          · exact consistent.commitsQuietly opened holds.1 holds.2 (by simp)
          · exact consistent.rollsBack holds.2 (by simp)

theorem consistent_step {hashtext : String → Int} {action : Action}
    (consistent : Consistent server) (seen : overwritesUnseenRow server action = false)
    (stepped : step hashtext server action = some next) : Consistent next := by
  have locked := locked_step consistent.locked stepped
  cases step_cases stepped with
  | accepted t backend accountId vaultId mutation now tx closed checked =>
      obtain ⟨decoded, phase, -⟩ := postItem_correct checked
      refine consistent.resume rfl rfl rfl rfl locked ?_ decoded
      unfold Stage
      rw [phase]
      trivial
  | refused t backend accountId vaultId mutation now =>
      exact
        { locked := locked
          stage := consistent.stage
          decoded := consistent.decoded
          ledger := consistent.ledger.replayed ⟨accountId, mutation, .badRequest, false⟩ rfl rfl rfl
            rfl (by simp) }
  | statement t tx next opened executed => exact consistent.statement opened seen executed
  | failed t tx opened =>
      exact consistent.endsQuietly ⟨tx.accountId, tx.mutation, .failed, false⟩
        (server.rollback_rows t) (server.rollback_outcomes t) rfl rfl locked rfl (by simp)

end Steps

end ZenPass.Sync
