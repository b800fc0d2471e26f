import ZenPass.Sync.Ledger

set_option autoImplicit false

namespace ZenPass.Sync

open Wire ReadCommitted Transition

inductive Pending (rows : Id × Id → Option ItemRow) (tx : Tx) : Nat → ResponseBody → Prop where
  | conflict (row : ItemRow) (body : ResponseBody) (item : tx.item = some row)
      (current : rows tx.itemKey = some row) : Pending rows tx 409 body
  | accepted (row : ItemRow) (item : tx.item = some row) :
      Pending rows tx 201 (.record (toItemRecord tx.backend row))

def Answers (rows : Id × Id → Option ItemRow) (outcomes : Id × Id → Option MutationOutcome)
    (tx : Tx) : Prop :=
  match tx.phase with
  | .recordMutationOutcome statusCode body => Pending rows tx statusCode body
  | .finish (.response statusCode body) =>
      (tx.item = none ∧ tx.recorded = none ∧
        ∃ vaultId, outcomes tx.outcomeKey = some ⟨vaultId, statusCode, body⟩) ∨
      (tx.recorded = some ⟨tx.mutation.vaultId, statusCode, body⟩ ∧
        outcomes tx.outcomeKey = none ∧ Pending rows tx statusCode body)
  | _ => True

structure Answered (server : Server) : Prop where
  locked : Locked server
  answers : ∀ t tx, server.txs t = some tx → Answers server.rows server.recordedOutcome tx
  settled : ∀ entry ∈ server.settled, ∀ statusCode body,
    entry.outcome = .response statusCode body →
      ∃ vaultId, server.recordedOutcome entry.outcomeKey = some ⟨vaultId, statusCode, body⟩
  statusCodes : ∀ key outcome, server.recordedOutcome key = some outcome →
    outcome.statusCode = 201 ∨ outcome.statusCode = 409

theorem answered_initial : Answered Server.initial where
  locked := locked_initial
  answers := by intro t tx opened; cases opened
  settled := by simp [Server.initial]
  statusCodes := by simp [Server.initial]

inductive Published (server next : Server) : Action → Prop where
  | nothing (action : Action) (rows : next.rows = server.rows)
      (outcomes : next.recordedOutcome = server.recordedOutcome) : Published server next action
  | conflict (t : TxId) (tx : Tx) (body : ResponseBody) (opened : server.txs t = some tx)
      (absent : server.recordedOutcome tx.outcomeKey = none) (rows : next.rows = server.rows)
      (outcomes : next.recordedOutcome = Function.update server.recordedOutcome tx.outcomeKey
        (some ⟨tx.mutation.vaultId, 409, body⟩)) : Published server next (.statement t)
  | accepted (t : TxId) (tx : Tx) (row : ItemRow) (opened : server.txs t = some tx)
      (absent : server.recordedOutcome tx.outcomeKey = none)
      (rows : next.rows = Function.update server.rows tx.itemKey (some row))
      (outcomes : next.recordedOutcome = Function.update server.recordedOutcome tx.outcomeKey
        (some ⟨tx.mutation.vaultId, 201, .record (toItemRecord tx.backend row)⟩)) :
      Published server next (.statement t)

section Steps

variable {server server' next : Server} {t : TxId} {tx tx' : Tx} {action : Action}

theorem Published.kept (published : Published server next action) {key : Id × Id}
    {outcome : MutationOutcome} (found : server.recordedOutcome key = some outcome) :
    next.recordedOutcome key = some outcome := by
  have elsewhere : ∀ other, server.recordedOutcome other = none → key ≠ other := by
    rintro other absent rfl
    rw [absent] at found
    cases found
  cases published with
  | nothing _ rows outcomes => rw [outcomes, found]
  | conflict t tx body opened absent rows outcomes =>
      rw [outcomes, Function.update_of_ne (elsewhere _ absent), found]
  | accepted t tx row opened absent rows outcomes =>
      rw [outcomes, Function.update_of_ne (elsewhere _ absent), found]

theorem Published.statusCodes (published : Published server next action)
    (before : ∀ key outcome, server.recordedOutcome key = some outcome →
      outcome.statusCode = 201 ∨ outcome.statusCode = 409) (key : Id × Id)
    (outcome : MutationOutcome) (found : next.recordedOutcome key = some outcome) :
    outcome.statusCode = 201 ∨ outcome.statusCode = 409 := by
  cases published with
  | nothing _ rows outcomes =>
      rw [outcomes] at found
      exact before key outcome found
  | conflict t tx body opened absent rows outcomes =>
      rw [outcomes, Function.update_apply] at found
      split at found
      · cases found
        exact .inr rfl
      · exact before key outcome found
  | accepted t tx row opened absent rows outcomes =>
      rw [outcomes, Function.update_apply] at found
      split at found
      · cases found
        exact .inl rfl
      · exact before key outcome found

theorem Answers.of_eq {rows rows' : Id × Id → Option ItemRow}
    {outcomes outcomes' : Id × Id → Option MutationOutcome} (answers : Answers rows outcomes tx)
    (item : tx.item.isSome → rows' tx.itemKey = rows tx.itemKey)
    (kept : ∀ row, outcomes tx.outcomeKey = some row → outcomes' tx.outcomeKey = some row)
    (recorded : tx.recorded.isSome → outcomes' tx.outcomeKey = outcomes tx.outcomeKey) :
    Answers rows' outcomes' tx := by
  have pending : ∀ statusCode body, Pending rows tx statusCode body →
      Pending rows' tx statusCode body := by
    intro statusCode body holds
    cases holds with
    | conflict row body here current =>
        exact .conflict row body here (by rw [item (by simp [here]), current])
    | accepted row here => exact .accepted row here
  unfold Answers at answers ⊢
  split at answers
  · exact pending _ _ answers
  · rcases answers with ⟨noItem, noRecord, vaultId, found⟩ | ⟨own, absent, holds⟩
    · exact .inl ⟨noItem, noRecord, vaultId, kept _ found⟩
    · exact .inr ⟨own, by rw [recorded (by simp [own]), absent], pending _ _ holds⟩
  · trivial

theorem Answered.resumes (answered : Answered server) (rows : server'.rows = server.rows)
    (outcomes : server'.recordedOutcome = server.recordedOutcome)
    (settled : server'.settled = server.settled) (txs : server'.txs = server.txs)
    (locked : Locked (server'.resume t tx'))
    (answers : Answers server.rows server.recordedOutcome tx') :
    Answered (server'.resume t tx') ∧ Published server (server'.resume t tx') action := by
  refine ⟨⟨locked, ?_, ?_, ?_⟩, .nothing action rows outcomes⟩
  · have before : ∀ u other, server'.txs u = some other →
        Answers server.rows server.recordedOutcome other := by
      rw [txs]
      exact answered.answers
    change ∀ u other, _ → Answers server'.rows server'.recordedOutcome other
    rw [rows, outcomes]
    exact forall_resume before answers
  · change ∀ entry ∈ server'.settled, ∀ statusCode body, _ → ∃ vaultId,
      server'.recordedOutcome entry.outcomeKey = _
    rw [settled, outcomes]
    exact answered.settled
  · change ∀ key outcome, server'.recordedOutcome key = _ → _
    rw [outcomes]
    exact answered.statusCodes

theorem Answered.ends (answered : Answered server) (entry : Settled)
    (published : Published server next action) (locked : Locked next)
    (settled : next.settled = server.settled ++ [entry])
    (answers : ∀ u other, next.txs u = some other → Answers next.rows next.recordedOutcome other)
    (known : ∀ statusCode body, entry.outcome = .response statusCode body →
      ∃ vaultId, next.recordedOutcome entry.outcomeKey = some ⟨vaultId, statusCode, body⟩) :
    Answered next ∧ Published server next action := by
  refine ⟨⟨locked, answers, ?_, published.statusCodes answered.statusCodes⟩, published⟩
  intro other member statusCode body given
  rw [settled, List.mem_append, List.mem_singleton] at member
  rcases member with member | rfl
  · obtain ⟨vaultId, found⟩ := answered.settled other member statusCode body given
    exact ⟨vaultId, published.kept found⟩
  · exact known statusCode body given

theorem Answered.endsQuietly (answered : Answered server) (entry : Settled)
    (rows : next.rows = server.rows) (outcomes : next.recordedOutcome = server.recordedOutcome)
    (settled : next.settled = server.settled ++ [entry])
    (txs : ∀ u other, next.txs u = some other → server.txs u = some other) (locked : Locked next)
    (known : ∀ statusCode body, entry.outcome = .response statusCode body →
      ∃ vaultId, server.recordedOutcome entry.outcomeKey = some ⟨vaultId, statusCode, body⟩) :
    Answered next ∧ Published server next action := by
  apply answered.ends entry (.nothing action rows outcomes) locked settled
  · intro u other opened
    rw [rows, outcomes]
    exact answered.answers u other (txs u other opened)
  · rw [outcomes]
    exact known

theorem closed_of_ne (server : Server) (t : TxId) {u : TxId} {other : Tx}
    (opened : Function.update server.txs t none u = some other) :
    u ≠ t ∧ server.txs u = some other := by
  by_cases same : u = t
  · subst same
    simp at opened
  · rw [Function.update_of_ne same] at opened
    exact ⟨same, opened⟩

theorem Answered.publishes (answered : Answered server) (opened : server.txs t = some tx)
    {statusCode : Nat} {body : ResponseBody}
    (recorded : tx.recorded = some ⟨tx.mutation.vaultId, statusCode, body⟩)
    (absent : server.recordedOutcome tx.outcomeKey = none)
    (pending : Pending server.rows tx statusCode body) :
    Answered (((server.commit t).settle tx (.response statusCode body)).releaseLocks t) ∧
      Published server (((server.commit t).settle tx (.response statusCode body)).releaseLocks t)
        (.statement t) := by
  have rows := answered.locked.commit_rows opened
  have outcomes := answered.locked.commit_outcomes opened
  rw [recorded] at outcomes
  simp only at outcomes
  apply answered.ends ⟨tx.accountId, tx.mutation, .response statusCode body, tx.recorded.isSome⟩
  · cases pending with
    | conflict row _ item current =>
        -- The conflicting row was only locked: it is published as it was.
        refine .conflict t tx body opened absent ?_ outcomes
        rw [item] at rows
        simp only at rows
        rw [← current, Function.update_eq_self] at rows
        exact rows
    | accepted row item =>
        refine .accepted t tx row opened absent ?_ outcomes
        rw [item] at rows
        exact rows
  · exact answered.locked.commit opened _
  · rfl
  · intro u other still
    obtain ⟨different, open_⟩ := closed_of_ne server t still
    obtain ⟨itemKept, recordedKept⟩ := answered.locked.commit_elsewhere opened open_ different
    refine (answered.answers u other open_).of_eq itemKept ?_ recordedKept
    intro old found
    change (server.commit t).recordedOutcome other.outcomeKey = some old
    rw [outcomes, Function.update_of_ne, found]
    intro same
    rw [same, absent] at found
    cases found
  · intro code given same
    cases same
    refine ⟨tx.mutation.vaultId, ?_⟩
    change (server.commit t).recordedOutcome tx.outcomeKey = _
    rw [outcomes]
    exact Function.update_self _ _ _

theorem Answered.commitsQuietly (answered : Answered server) (opened : server.txs t = some tx)
    (item : tx.item = none) (unrecorded : tx.recorded = none) (outcome : ApplyOutcome)
    (known : ∀ statusCode body, outcome = .response statusCode body →
      ∃ vaultId, server.recordedOutcome tx.outcomeKey = some ⟨vaultId, statusCode, body⟩) :
    Answered (((server.commit t).settle tx outcome).releaseLocks t) ∧
      Published server (((server.commit t).settle tx outcome).releaseLocks t) action := by
  have rows := answered.locked.commit_rows opened
  have outcomes := answered.locked.commit_outcomes opened
  rw [item] at rows
  rw [unrecorded] at outcomes
  exact answered.endsQuietly ⟨tx.accountId, tx.mutation, outcome, tx.recorded.isSome⟩ rows outcomes
    rfl (fun u other still => (closed_of_ne server t still).2) (answered.locked.commit opened outcome) known

theorem Answered.rollsBack (answered : Answered server) (tx : Tx) (outcome : ApplyOutcome)
    (unanswered : ∀ statusCode body, outcome ≠ .response statusCode body) :
    Answered (((server.rollback t).settle tx outcome).releaseLocks t) ∧
      Published server (((server.rollback t).settle tx outcome).releaseLocks t) action := by
  refine answered.endsQuietly ⟨tx.accountId, tx.mutation, outcome, tx.recorded.isSome⟩
    (server.rollback_rows t) (server.rollback_outcomes t) rfl
    (fun u other still => (closed_of_ne server t still).2) (answered.locked.rollback tx outcome) ?_
  intro statusCode body given
  exact absurd given (unanswered statusCode body)

theorem answers_compareRevision {rows : Id × Id → Option ItemRow}
    {outcomes : Id × Id → Option MutationOutcome} (existing : Option ItemRow)
    (current : rows tx.itemKey = existing) : Answers rows outcomes (compareRevision tx existing) := by
  rcases compareRevision_cases tx existing with ⟨-, result⟩ | ⟨row, body, found, result⟩ | ⟨-, result⟩
    <;> rw [result]
  · trivial
  · exact Pending.conflict row body rfl (current.trans found)
  · trivial

theorem Answered.statement (answered : Answered server) (opened : server.txs t = some tx)
    (executed : Executed server t tx next) :
    Answered next ∧ Published server next (.statement t) := by
  have locked := answered.locked.statement opened executed
  have holds := answered.locked.holds t tx opened
  have answers := answered.answers t tx opened
  unfold Tx.Holds at holds
  unfold Answers at answers
  cases executed with
  | replay row phase found =>
      refine answered.endsQuietly ⟨tx.accountId, tx.mutation, _, tx.recorded.isSome⟩ rfl rfl rfl
        (fun u other still => (closed_of_ne server t still).2) locked ?_
      intro statusCode body given
      cases given
      exact ⟨row.vaultId, found⟩
  | noReplay phase => exact answered.resumes rfl rfl rfl rfl locked trivial
  | lock key phase => exact answered.resumes rfl rfl rfl rfl locked trivial
  | outcome row phase found =>
      -- Nothing is recorded by this transaction yet, so it sees the committed row.
      rw [phase] at holds
      rcases holds with ⟨vault, item, recorded⟩
      have viewed := answered.locked.outcomes.view opened
      rw [recorded, found] at viewed
      exact answered.resumes rfl rfl rfl rfl locked
        (.inl ⟨item, recorded, row.vaultId, viewed.symm⟩)
  | noOutcome phase => exact answered.resumes rfl rfl rfl rfl locked trivial
  | vaultExists phase => exact answered.resumes rfl rfl rfl rfl locked trivial
  | vaultInserted phase absent available =>
      exact answered.resumes rfl rfl rfl rfl locked trivial
  | owner phase owned => exact answered.resumes rfl rfl rfl rfl locked trivial
  | notOwner phase => exact answered.resumes rfl rfl rfl rfl locked trivial
  | noItem phase absent =>
      exact answered.resumes rfl rfl rfl rfl locked (answers_compareRevision none absent)
  | item row phase found available =>
      exact answered.resumes (funext fun _ => Table.hold_committed _ _ _ _ _) rfl rfl rfl locked
        (answers_compareRevision _ found)
  | drawn phase => exact answered.resumes rfl rfl rfl rfl locked trivial
  | inserted proposed phase available absent =>
      exact answered.resumes (funext fun _ => Table.hold_committed _ _ _ _ _) rfl rfl rfl locked
        (Pending.accepted _ rfl)
  | updated proposed row phase available found =>
      exact answered.resumes (funext fun _ => Table.hold_committed _ _ _ _ _) rfl rfl rfl locked
        (Pending.accepted _ rfl)
  | duplicate statusCode body row phase => exact answered.resumes rfl rfl rfl rfl locked trivial
  | recorded statusCode body phase available absent =>
      -- The insert has found no row under the mutation id, so none is committed.
      rw [phase] at answers holds
      have viewed := answered.locked.outcomes.view opened
      rw [holds, absent] at viewed
      refine answered.resumes rfl (funext fun _ => Table.hold_committed _ _ _ _ _) rfl rfl locked
        (.inr ⟨rfl, viewed.symm, ?_⟩)
      cases answers with
      | conflict row _ item current => exact .conflict row _ item current
      | accepted row item => exact .accepted row item
  | finished outcome phase =>
      rw [phase] at answers holds
      cases outcome with
      | response statusCode body =>
          rcases answers with ⟨item, recorded, known⟩ | ⟨own, absent, pending⟩
          · apply answered.commitsQuietly opened item recorded
            intro code given same
            cases same
            exact known
          · exact answered.publishes opened own absent pending
      | failed => exact answered.rollsBack tx _ (by simp)
      | notFound =>
          split
          · exact answered.commitsQuietly opened holds.1 holds.2 _ (by simp)
          · exact answered.rollsBack tx _ (by simp)
      | badRequest =>
          split
          · exact answered.commitsQuietly opened holds.1 holds.2 _ (by simp)
          · exact answered.rollsBack tx _ (by simp)

theorem answered_step {hashtext : String → Int} (answered : Answered server)
    (stepped : step hashtext server action = some next) :
    Answered next ∧ Published server next action := by
  have locked := locked_step answered.locked stepped
  cases step_cases stepped with
  | accepted t backend accountId vaultId mutation now tx closed checked =>
      obtain ⟨-, phase, -⟩ := postItem_correct checked
      apply answered.resumes rfl rfl rfl rfl locked
      unfold Answers
      rw [phase]
      trivial
  | refused t backend accountId vaultId mutation now =>
      exact answered.endsQuietly ⟨accountId, mutation, .badRequest, false⟩ rfl rfl rfl
        (fun u other still => still) locked (by simp)
  | statement t tx next opened executed => exact answered.statement opened executed
  | failed t tx opened => exact answered.rollsBack { tx with recorded := none } .failed (by simp)

end Steps

def creator (server : Server) (action : Action) (next : Server) : Option Tx :=
  match action with
  | .statement t =>
      (server.txs t).filter fun tx => decide (next.rows tx.itemKey ≠ server.rows tx.itemKey)
  | _ => none

variable (hashtext : String → Int)

def creations (actions : List Action) : List Tx :=
  observed (step hashtext) creator Server.initial actions

/-- The revisions created and the answers given under each account and mutation id. -/
structure ExactlyOnce (actions : List Action) (final : Server) : Prop where
  -- A row changes only with the outcome that its request records.
  created : ∀ before action after server next, actions = before ++ action :: after →
    run (step hashtext) Server.initial before = some server →
    step hashtext server action = some next → ∀ key, next.rows key ≠ server.rows key →
      ∃ tx row, creator server action next = some tx ∧ tx.itemKey = key ∧
        next.rows key = some row ∧ server.recordedOutcome tx.outcomeKey = none ∧
        next.recordedOutcome tx.outcomeKey =
          some ⟨tx.mutation.vaultId, 201, .record (toItemRecord tx.backend row)⟩
  once : ((creations hashtext actions).map Tx.outcomeKey).Nodup
  answered : ∀ entry ∈ final.settled, ∀ statusCode body,
    entry.outcome = .response statusCode body → (statusCode = 201 ∨ statusCode = 409) ∧
      ∃ vaultId, final.recordedOutcome entry.outcomeKey = some ⟨vaultId, statusCode, body⟩
  same : ∀ first ∈ final.settled, ∀ second ∈ final.settled,
    first.outcomeKey = second.outcomeKey → ∀ statusCode body statusCode' body',
      first.outcome = .response statusCode body → second.outcome = .response statusCode' body' →
        statusCode = statusCode' ∧ body = body'
  first : ∀ before after server, actions = before ++ after →
    run (step hashtext) Server.initial before = some server →
      ∀ key outcome, server.recordedOutcome key = some outcome →
        final.recordedOutcome key = some outcome

section Runs

variable {hashtext} {server next final : Server} {actions : List Action}

theorem answered_run (ran : run (step hashtext) Server.initial actions = some final) :
    Answered final :=
  run_preserves (fun _ _ _ answered stepped => (answered_step answered stepped).1)
    answered_initial ran

theorem Answered.kept (answered : Answered server)
    (ran : run (step hashtext) server actions = some final) {key : Id × Id}
    {outcome : MutationOutcome} (found : server.recordedOutcome key = some outcome) :
    final.recordedOutcome key = some outcome := by
  have keep : ∀ state action next, (Answered state ∧ state.recordedOutcome key = some outcome) →
      step hashtext state action = some next →
        Answered next ∧ next.recordedOutcome key = some outcome := by
    rintro state action next ⟨before, recorded⟩ stepped
    obtain ⟨after, published⟩ := answered_step before stepped
    exact ⟨after, published.kept recorded⟩
  exact (run_preserves keep ⟨answered, found⟩ ran).2

theorem Published.created {action : Action} (published : Published server next action)
    {key : Id × Id} (changed : next.rows key ≠ server.rows key) :
    ∃ tx row, creator server action next = some tx ∧ tx.itemKey = key ∧
      next.rows key = some row ∧ server.recordedOutcome tx.outcomeKey = none ∧
      next.recordedOutcome tx.outcomeKey =
        some ⟨tx.mutation.vaultId, 201, .record (toItemRecord tx.backend row)⟩ := by
  cases published with
  | nothing _ rows outcomes => exact absurd (congrFun rows key) changed
  | conflict t tx body opened absent rows outcomes => exact absurd (congrFun rows key) changed
  | accepted t tx row opened absent rows outcomes =>
      by_cases mine : key = tx.itemKey
      · subst mine
        have shown : creator server (.statement t) next = some tx := by
          simp [creator, opened, changed]
        refine ⟨tx, row, shown, rfl, ?_, absent, ?_⟩
        · rw [rows]
          exact Function.update_self _ _ _
        · rw [outcomes]
          exact Function.update_self _ _ _
      · rw [rows, Function.update_of_ne mine] at changed
        exact absurd rfl changed

theorem Published.creator_fresh {action : Action} {tx : Tx}
    (published : Published server next action) (shown : creator server action next = some tx) :
    ¬ (server.recordedOutcome tx.outcomeKey).isSome ∧
      (next.recordedOutcome tx.outcomeKey).isSome := by
  have changed : next.rows tx.itemKey ≠ server.rows tx.itemKey := by
    unfold creator at shown
    split at shown
    · rw [Option.filter_eq_some_iff] at shown
      exact of_decide_eq_true shown.2
    · cases shown
  obtain ⟨other, row, again, -, -, absent, present⟩ := published.created changed
  rw [shown, Option.some.injEq] at again
  subst again
  simp [absent, present]

theorem creations_once (actions : List Action) :
    ((creations hashtext actions).map Tx.outcomeKey).Nodup := by
  refine (observed_nodup Tx.outcomeKey
    (fun server key => (server.recordedOutcome key).isSome = true) ?_ ?_ ?_ answered_initial
    actions).1
  · intro state action next answered stepped
    exact (answered_step answered stepped).1
  · intro state action next answered stepped key known
    obtain ⟨outcome, found⟩ := Option.isSome_iff_exists.mp known
    rw [(answered_step answered stepped).2.kept found]
    rfl
  · intro state action next tx answered stepped shown
    exact (answered_step answered stepped).2.creator_fresh shown

end Runs

/-- Whatever the interleaving, with any duplicates and retries of the requests. -/
theorem exactly_once (actions : List Action) (final : Server)
    (ran : run (step hashtext) Server.initial actions = some final) :
    ExactlyOnce hashtext actions final where
  created := by
    intro before action after server next split there stepped key changed
    exact (answered_step (answered_run there) stepped).2.created changed
  once := creations_once actions
  answered := by
    intro entry member statusCode body given
    obtain ⟨vaultId, found⟩ := (answered_run ran).settled entry member statusCode body given
    exact ⟨(answered_run ran).statusCodes _ _ found, vaultId, found⟩
  same := by
    intro first here second there sameKey statusCode body statusCode' body' given given'
    obtain ⟨vaultId, found⟩ := (answered_run ran).settled first here statusCode body given
    obtain ⟨vaultId', found'⟩ := (answered_run ran).settled second there statusCode' body' given'
    rw [sameKey, found'] at found
    cases found
    exact ⟨rfl, rfl⟩
  first := by
    intro before after server split there key outcome found
    rw [split, run_append, there] at ran
    exact (answered_run there).kept ran found

section Samples

def retries : List Action :=
  .postItem 0 .node "account" "vault" (sampleMutation "m0" "item" "b64:AAAA" 0) 1000 ::
    .postItem 1 .node "account" "vault" (sampleMutation "m0" "item" "b64:AAAA" 0) 1000 ::
    (List.replicate 2 (.statement 0) ++ .statement 1 :: List.replicate 8 (.statement 0) ++
      List.replicate 3 (.statement 1)) ++
  .postItem 2 .node "account" "vault" (sampleMutation "m11" "item" "b64:AQAA" 1) 2000 ::
    List.replicate 10 (.statement 2) ++
  [.postItem 3 .rust "account" "vault" (sampleMutation "m0" "item" "b64:AAAA" 0) 3000, .statement 3]

theorem exactly_once_retries :
    ∃ final, run (step lengthHash) Server.initial retries = some final ∧
      (final.settled.filter fun entry => entry.mutation.mutationId == "m0").length = 3 ∧
      (creations lengthHash retries).length = 2 ∧ ExactlyOnce lengthHash retries final := by
  have ran : run (step lengthHash) Server.initial retries = some _ := run_reached (by decide +kernel)
  refine ⟨_, ran, by decide +kernel, by decide +kernel, ?_⟩
  exact exactly_once lengthHash retries _ ran

end Samples

end ZenPass.Sync
