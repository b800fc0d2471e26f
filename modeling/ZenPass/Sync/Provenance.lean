import ZenPass.Sync.ExactlyOnce
import ZenPass.Sync.Isolation

set_option autoImplicit false

namespace ZenPass.Sync

open Wire ReadCommitted Transition

/-- The request was answered with the row it wrote; `posted` holds of it. -/
structure Origin (posted : Id → Mutation → Prop) (backend : Backend) (entry : Settled)
    (row : ItemRow) : Prop where
  outcome : entry.outcome = .response 201 (.record (toItemRecord backend row))
  fresh : entry.fresh = true
  key : row.key = (entry.mutation.vaultId, entry.mutation.itemId)
  valid : isValidMutation backend entry.mutation = true
  ciphertext : decodeB64 (backend == .rust) entry.mutation.ciphertext = some row.ciphertext
  deleted : row.deleted = entry.mutation.deleted
  request : posted entry.accountId entry.mutation

section Records

variable (posted : Id → Mutation → Prop) (settled : List Settled)

def Written (row : ItemRow) : Prop :=
  ∃ entry ∈ settled, ∃ backend, Origin posted backend entry row

/-- The record shows a row as some backend renders it. -/
def Version (record : ItemRecord) : Prop :=
  ∃ row backend, Written posted settled row ∧ record = toItemRecord backend row

def ResponseBody.shown : ResponseBody → ItemRecord
  | .record item => item
  | .conflict _ current _ => current

inductive Drafted (tx : Tx) : Nat → ResponseBody → Prop where
  | conflict (row : ItemRow) (item : tx.item = some row) (written : Written posted settled row) :
      Drafted tx 409 (.conflict tx.mutation.mutationId (toItemRecord tx.backend row) tx.mutation)
  | accepted (row : ItemRow) (item : tx.item = some row) (key : row.key = tx.itemKey)
      (ciphertext : row.ciphertext = tx.ciphertext) (deleted : row.deleted = tx.mutation.deleted) :
      Drafted tx 201 (.record (toItemRecord tx.backend row))

def Sources (tx : Tx) : Prop :=
  match tx.phase with
  | .recordMutationOutcome statusCode body => Drafted posted settled tx statusCode body
  | .finish (.response statusCode body) =>
      (tx.item = none ∧ tx.recorded = none ∧ Version posted settled body.shown) ∨
        (tx.recorded = some ⟨tx.mutation.vaultId, statusCode, body⟩ ∧
          Drafted posted settled tx statusCode body)
  | _ => True

structure Tx.Checked (tx : Tx) : Prop where
  decoded : tx.Decoded
  valid : isValidMutation tx.backend tx.mutation = true
  request : posted tx.accountId tx.mutation

end Records

/-- Every record that is stored, or given in an answer, is a version that an answered request
wrote. -/
structure Sourced (posted : Id → Mutation → Prop) (server : Server) : Prop where
  locked : Locked server
  checked : ∀ t tx, server.txs t = some tx → tx.Checked posted
  sources : ∀ t tx, server.txs t = some tx → Sources posted server.settled tx
  rows : ∀ key row, server.rows key = some row → Written posted server.settled row
  outcomes : ∀ key outcome, server.recordedOutcome key = some outcome →
    Version posted server.settled outcome.responseBody.shown
  answers : ∀ entry ∈ server.settled, ∀ statusCode body,
    entry.outcome = .response statusCode body → Version posted server.settled body.shown

section Steps

variable {posted : Id → Mutation → Prop} {settled later : List Settled} {server next after : Server}
  {t : TxId} {tx tx' : Tx}

theorem sourced_initial : Sourced posted Server.initial where
  locked := locked_initial
  checked _ _ opened := by cases opened
  sources _ _ opened := by cases opened
  rows _ _ found := by cases found
  outcomes _ _ found := by cases found
  answers _ member := by cases member

theorem Written.mono {row : ItemRow} (written : Written posted settled row)
    (grows : settled ⊆ later) : Written posted later row := by
  obtain ⟨entry, member, backend, origin⟩ := written
  exact ⟨entry, grows member, backend, origin⟩

theorem Version.mono {record : ItemRecord} (version : Version posted settled record)
    (grows : settled ⊆ later) : Version posted later record := by
  obtain ⟨row, backend, written, shows_⟩ := version
  exact ⟨row, backend, written.mono grows, shows_⟩

theorem Drafted.mono {statusCode : Nat} {body : ResponseBody}
    (drafted : Drafted posted settled tx statusCode body) (grows : settled ⊆ later) :
    Drafted posted later tx statusCode body := by
  cases drafted with
  | conflict row item written => exact .conflict row item (written.mono grows)
  | accepted row item key ciphertext deleted => exact .accepted row item key ciphertext deleted

theorem Sources.mono (sources : Sources posted settled tx) (grows : settled ⊆ later) :
    Sources posted later tx := by
  unfold Sources at sources ⊢
  split at sources
  · exact sources.mono grows
  · rcases sources with ⟨item, recorded, version⟩ | ⟨recorded, drafted⟩
    · exact .inl ⟨item, recorded, version.mono grows⟩
    · exact .inr ⟨recorded, drafted.mono grows⟩
  · trivial

theorem SameRequest.checked (same : SameRequest tx tx') (checked : tx.Checked posted) :
    tx'.Checked posted where
  decoded := same.decoded checked.decoded
  valid := by
    rw [same.backend, same.mutation]
    exact checked.valid
  request := by
    rw [same.accountId, same.mutation]
    exact checked.request

theorem Sourced.resume (sourced : Sourced posted server) (locked : Locked (after.resume t tx'))
    (txs : after.txs = server.txs) (rows : after.rows = server.rows)
    (outcomes : after.recordedOutcome = server.recordedOutcome)
    (settled : after.settled = server.settled) (checked : tx'.Checked posted)
    (sources : Sources posted server.settled tx') : Sourced posted (after.resume t tx') := by
  refine ⟨locked, ?_, ?_, ?_, ?_, ?_⟩
  · apply forall_resume _ checked
    rw [txs]
    exact sourced.checked
  · change ∀ u other, _ → Sources posted after.settled other
    rw [settled]
    apply forall_resume _ sources
    rw [txs]
    exact sourced.sources
  · change ∀ key row, after.rows key = some row → Written posted after.settled row
    rw [rows, settled]
    exact sourced.rows
  · change ∀ key outcome, after.recordedOutcome key = some outcome →
      Version posted after.settled outcome.responseBody.shown
    rw [outcomes, settled]
    exact sourced.outcomes
  · change ∀ entry ∈ after.settled, ∀ statusCode (body : ResponseBody), _ →
      Version posted after.settled body.shown
    rw [settled]
    exact sourced.answers

theorem sources_compareRevision {existing : Option ItemRow}
    (written : ∀ row, existing = some row → Written posted settled row) :
    Sources posted settled (compareRevision tx existing) := by
  unfold compareRevision
  dsimp only
  split
  · cases existing with
    | none => trivial
    | some row => exact Drafted.conflict row rfl (written row rfl)
  · trivial

theorem Drafted.item_written {statusCode : Nat} {body : ResponseBody} {row : ItemRow}
    (drafted : Drafted posted settled tx statusCode body) (checked : tx.Checked posted)
    (item : tx.item = some row) :
    Written posted
      (settled ++ [⟨tx.accountId, tx.mutation, .response statusCode body, true⟩]) row := by
  have grows : settled ⊆ settled ++ [⟨tx.accountId, tx.mutation, .response statusCode body, true⟩] :=
    List.subset_append_left _ _
  cases drafted with
  | conflict other item' written =>
      obtain rfl : other = row := Option.some.inj (item'.symm.trans item)
      exact written.mono grows
  | accepted other item' key ciphertext deleted =>
      obtain rfl : other = row := Option.some.inj (item'.symm.trans item)
      refine ⟨_, List.mem_append_right _ (List.mem_singleton.mpr rfl), tx.backend, ?_⟩
      refine ⟨rfl, rfl, key, checked.valid, ?_, deleted, checked.request⟩
      rw [ciphertext]
      exact checked.decoded

theorem Drafted.version {statusCode : Nat} {body : ResponseBody}
    (drafted : Drafted posted settled tx statusCode body) (checked : tx.Checked posted) :
    Version posted
      (settled ++ [⟨tx.accountId, tx.mutation, .response statusCode body, true⟩]) body.shown := by
  cases drafted with
  | conflict row item written =>
      exact ⟨row, tx.backend, (Drafted.conflict row item written).item_written checked item, rfl⟩
  | accepted row item key ciphertext deleted =>
      exact ⟨row, tx.backend,
        (Drafted.accepted row item key ciphertext deleted).item_written checked item, rfl⟩

theorem Sourced.ends (sourced : Sourced posted server) (entry : Settled)
    (locked : Locked after) (settled : after.settled = server.settled ++ [entry])
    (txs : ∀ u other, after.txs u = some other → server.txs u = some other)
    (rows : ∀ key row, after.rows key = some row →
      server.rows key = some row ∨ Written posted (server.settled ++ [entry]) row)
    (outcomes : ∀ key outcome, after.recordedOutcome key = some outcome →
      server.recordedOutcome key = some outcome ∨
        Version posted (server.settled ++ [entry]) outcome.responseBody.shown)
    (answer : ∀ statusCode body, entry.outcome = .response statusCode body →
      Version posted (server.settled ++ [entry]) body.shown) : Sourced posted after := by
  have grows : server.settled ⊆ server.settled ++ [entry] := List.subset_append_left _ _
  refine ⟨locked, fun u other opened => sourced.checked u other (txs u other opened), ?_, ?_, ?_, ?_⟩
  all_goals rw [settled]
  · exact fun u other opened => (sourced.sources u other (txs u other opened)).mono grows
  · intro key row found
    rcases rows key row found with old | written
    · exact (sourced.rows key row old).mono grows
    · exact written
  · intro key outcome found
    rcases outcomes key outcome found with old | version
    · exact (sourced.outcomes key outcome old).mono grows
    · exact version
  · intro other member statusCode body is
    rcases List.mem_append.mp member with old | new
    · exact (sourced.answers other old statusCode body is).mono grows
    · cases List.mem_singleton.mp new
      exact answer statusCode body is

theorem sources_committing (sourced : Sourced posted server) (opened : server.txs t = some tx)
    {outcome : ApplyOutcome} (phase : tx.phase = .finish outcome)
    (committing : commits tx.backend outcome = true) :
    (tx.item = none ∧ tx.recorded = none ∧ ∀ statusCode body,
      outcome = .response statusCode body → Version posted server.settled body.shown) ∨
    ∃ statusCode body, outcome = .response statusCode body ∧
      tx.recorded = some ⟨tx.mutation.vaultId, statusCode, body⟩ ∧
      Drafted posted server.settled tx statusCode body := by
  have holds := sourced.locked.holds t tx opened
  have sources := sourced.sources t tx opened
  unfold Tx.Holds at holds
  unfold Sources at sources
  rw [phase] at holds sources
  cases outcome with
  | response statusCode body =>
      rcases sources with ⟨item, recorded, version⟩ | ⟨recorded, drafted⟩
      · refine .inl ⟨item, recorded, ?_⟩
        rintro _ _ ⟨⟩
        exact version
      · exact .inr ⟨statusCode, body, rfl, recorded, drafted⟩
  | failed => simp [commits] at committing
  | notFound => exact .inl ⟨holds.1, holds.2, by simp⟩
  | badRequest => exact .inl ⟨holds.1, holds.2, by simp⟩

theorem Sourced.commits (sourced : Sourced posted server) (opened : server.txs t = some tx)
    {outcome : ApplyOutcome} (phase : tx.phase = .finish outcome)
    (committing : Sync.commits tx.backend outcome = true) :
    Sourced posted (((server.commit t).settle tx outcome).releaseLocks t) := by
  have checked := sourced.checked t tx opened
  have locked := sourced.locked.commit opened outcome
  have closed (u : TxId) (other : Tx) (still : Function.update server.txs t none u = some other) :
      server.txs u = some other := (closed_of_ne server t still).2
  have rows := sourced.locked.commit_rows opened
  have outcomes := sourced.locked.commit_outcomes opened
  rcases sources_committing sourced opened phase committing with
    ⟨item, recorded, answer⟩ | ⟨statusCode, body, rfl, recorded, drafted⟩
  · rw [item] at rows
    rw [recorded] at outcomes
    refine sourced.ends ⟨tx.accountId, tx.mutation, outcome, tx.recorded.isSome⟩ locked rfl closed
      ?_ ?_ ?_
    · exact fun key row found => .inl ((congrFun rows key).symm.trans found)
    · exact fun key row found => .inl ((congrFun outcomes key).symm.trans found)
    · exact fun statusCode body is => (answer statusCode body is).mono (List.subset_append_left _ _)
  · have version := drafted.version checked
    refine sourced.ends ⟨tx.accountId, tx.mutation, .response statusCode body, true⟩ locked ?_ closed
      ?_ ?_ ?_
    · change server.settled ++ [⟨tx.accountId, tx.mutation, _, tx.recorded.isSome⟩] = _
      rw [recorded]
      rfl
    · intro key row found
      change (server.commit t).rows key = some row at found
      rw [rows] at found
      cases item : tx.item with
      | none =>
          rw [item] at found
          exact .inl found
      | some held =>
          simp only [item] at found
          by_cases same : key = tx.itemKey
          · subst same
            rw [Function.update_self] at found
            cases found
            exact .inr (drafted.item_written checked item)
          · rw [Function.update_of_ne same] at found
            exact .inl found
    · intro key row found
      change (server.commit t).recordedOutcome key = some row at found
      rw [outcomes, recorded] at found
      dsimp only at found
      by_cases same : key = tx.outcomeKey
      · subst same
        rw [Function.update_self] at found
        cases found
        exact .inr version
      · rw [Function.update_of_ne same] at found
        exact .inl found
    · rintro _ _ ⟨⟩
      exact version

theorem Sourced.rollsBack (sourced : Sourced posted server) (tx : Tx) {outcome : ApplyOutcome}
    (bodiless : ∀ statusCode body, outcome ≠ .response statusCode body) :
    Sourced posted (((server.rollback t).settle tx outcome).releaseLocks t) := by
  refine sourced.ends ⟨tx.accountId, tx.mutation, outcome, tx.recorded.isSome⟩
    (sourced.locked.rollback tx outcome) rfl (fun u other still => (closed_of_ne server t still).2)
    ?_ ?_ ?_
  · exact fun key row found => .inl ((congrFun (server.rollback_rows t) key).symm.trans found)
  · exact fun key row found => .inl ((congrFun (server.rollback_outcomes t) key).symm.trans found)
  · exact fun statusCode body is => absurd is (bodiless statusCode body)

theorem Sourced.statement (sourced : Sourced posted server) (opened : server.txs t = some tx)
    (executed : Executed server t tx next) : Sourced posted next := by
  have locked := sourced.locked.statement opened executed
  have holds := sourced.locked.holds t tx opened
  have sources := sourced.sources t tx opened
  have checked := sourced.checked t tx opened
  have goesOn (after : Tx) (same : SameRequest tx after) : after.Checked posted :=
    same.checked checked
  unfold Tx.Holds at holds
  unfold Sources at sources
  cases executed with
  | replay row phase found =>
      refine sourced.ends ⟨tx.accountId, tx.mutation, _, tx.recorded.isSome⟩ locked rfl
        (fun u other still => (closed_of_ne server t still).2) (fun _ _ => .inl) (fun _ _ => .inl) ?_
      rintro _ _ ⟨⟩
      exact (sourced.outcomes _ row found).mono (List.subset_append_left _ _)
  | noReplay => exact sourced.resume locked rfl rfl rfl rfl (goesOn _ ⟨rfl, rfl, rfl, rfl⟩) trivial
  | lock key => exact sourced.resume locked rfl rfl rfl rfl (goesOn _ ⟨rfl, rfl, rfl, rfl⟩) trivial
  | outcome row phase found =>
      rw [phase] at holds
      have viewed := sourced.locked.outcomes.view opened
      rw [holds.2.2, found] at viewed
      exact sourced.resume locked rfl rfl rfl rfl (goesOn _ ⟨rfl, rfl, rfl, rfl⟩)
        (.inl ⟨holds.2.1, holds.2.2, sourced.outcomes _ row viewed.symm⟩)
  | noOutcome => exact sourced.resume locked rfl rfl rfl rfl (goesOn _ ⟨rfl, rfl, rfl, rfl⟩) trivial
  | vaultExists => exact sourced.resume locked rfl rfl rfl rfl (goesOn _ ⟨rfl, rfl, rfl, rfl⟩) trivial
  | vaultInserted =>
      exact sourced.resume locked rfl rfl rfl rfl
        (goesOn _ ⟨rfl, rfl, rfl, rfl⟩) trivial
  | owner => exact sourced.resume locked rfl rfl rfl rfl (goesOn _ ⟨rfl, rfl, rfl, rfl⟩) trivial
  | notOwner => exact sourced.resume locked rfl rfl rfl rfl (goesOn _ ⟨rfl, rfl, rfl, rfl⟩) trivial
  | noItem phase absent =>
      exact sourced.resume locked rfl rfl rfl rfl
        (goesOn _ (sameRequest_compareRevision tx none)) (sources_compareRevision (by simp))
  | item row phase found =>
      refine sourced.resume locked rfl (funext fun _ => Table.hold_committed _ _ _ _ _) rfl rfl
        (goesOn _ (sameRequest_compareRevision tx _)) (sources_compareRevision ?_)
      rintro _ ⟨⟩
      exact sourced.rows _ row found
  | drawn => exact sourced.resume locked rfl rfl rfl rfl (goesOn _ ⟨rfl, rfl, rfl, rfl⟩) trivial
  | inserted proposed =>
      exact sourced.resume locked rfl (funext fun _ => Table.hold_committed _ _ _ _ _) rfl rfl
        (goesOn _ ⟨rfl, rfl, rfl, rfl⟩) (Drafted.accepted _ rfl rfl rfl rfl)
  | updated proposed current phase available found =>
      exact sourced.resume locked rfl (funext fun _ => Table.hold_committed _ _ _ _ _) rfl rfl
        (goesOn _ ⟨rfl, rfl, rfl, rfl⟩)
        (Drafted.accepted _ rfl (sourced.locked.keyed _ current found) rfl rfl)
  | duplicate => exact sourced.resume locked rfl rfl rfl rfl (goesOn _ ⟨rfl, rfl, rfl, rfl⟩) trivial
  | recorded statusCode body phase =>
      rw [phase] at sources
      refine sourced.resume locked rfl rfl (funext fun _ => Table.hold_committed _ _ _ _ _) rfl
        (goesOn _ ⟨rfl, rfl, rfl, rfl⟩) (.inr ⟨rfl, ?_⟩)
      cases sources with
      | conflict row item written => exact .conflict row item written
      | accepted row item key ciphertext deleted => exact .accepted row item key ciphertext deleted
  | finished outcome phase =>
      split
      · exact sourced.commits opened phase ‹_›
      · rename_i refused
        refine sourced.rollsBack tx fun _ _ is => refused ?_
        rw [is]
        cases tx.backend <;> rfl

theorem postItem_checked {backend : Backend} {accountId vaultId : Id} {mutation : Mutation}
    {now : Timestamp} (checked : postItem backend accountId vaultId mutation now = some tx)
    (request : posted accountId mutation) : tx.Checked posted := by
  have decoded := (postItem_correct checked).1
  unfold postItem at checked
  split at checked
  · rename_i passed
    rw [Option.map_eq_some_iff] at checked
    obtain ⟨ciphertext, -, rfl⟩ := checked
    simp only [Bool.and_eq_true] at passed
    exact ⟨decoded, passed.1.2, request⟩
  · cases checked

def Action.Posts (posted : Id → Mutation → Prop) : Action → Prop
  | .postItem _ _ accountId _ mutation _ => posted accountId mutation
  | _ => True

theorem sourced_step {hashtext : String → Int} {action : Action} (sourced : Sourced posted server)
    (posts : action.Posts posted) (stepped : step hashtext server action = some next) :
    Sourced posted next := by
  have locked := locked_step sourced.locked stepped
  cases step_cases stepped with
  | accepted t backend accountId vaultId mutation now tx closed checked =>
      obtain ⟨-, phase, -⟩ := postItem_correct checked
      refine sourced.resume locked rfl rfl rfl rfl (postItem_checked checked posts) ?_
      unfold Sources
      rw [phase]
      trivial
  | refused t backend accountId vaultId mutation now =>
      exact sourced.ends ⟨accountId, mutation, .badRequest, false⟩ locked rfl (fun _ _ => id)
        (fun _ _ => .inl) (fun _ _ => .inl) (by simp)
  | statement t tx next opened executed => exact sourced.statement opened executed
  | failed t tx opened => exact sourced.rollsBack _ (by simp)

theorem settled_grows {hashtext : String → Int} {action : Action}
    (stepped : step hashtext server action = some next) : server.settled ⊆ next.settled := by
  cases step_cases stepped with
  | accepted => exact List.Subset.refl _
  | refused => exact List.subset_append_left _ _
  | failed => exact List.subset_append_left _ _
  | statement t tx next opened executed =>
      cases executed with
      | replay => exact List.subset_append_left _ _
      | finished outcome phase =>
          split
          · exact List.subset_append_left _ _
          · exact List.subset_append_left _ _
      | _ => exact List.Subset.refl _

end Steps

section Traffic

variable {posted : Id → Mutation → Prop} {hashtext : String → Int} {traffic next : Traffic}
  {action : TrafficAction}

def TrafficAction.Posts (posted : Id → Mutation → Prop) : TrafficAction → Prop
  | .server action => action.Posts posted
  | _ => True

structure Traffic.Sourced (posted : Id → Mutation → Prop) (traffic : Traffic) : Prop where
  isolated : traffic.Isolated
  server : Sync.Sourced posted traffic.server
  pages : ∀ page ∈ traffic.pages, ∀ record ∈ page.2,
    Version posted traffic.server.settled record

theorem Traffic.sourced_initial : Traffic.initial.Sourced posted where
  isolated := Traffic.isolated_initial
  server := Sync.sourced_initial
  pages _ member := by cases member

theorem Traffic.Sourced.step (sourced : traffic.Sourced posted) (posts : action.Posts posted)
    (stepped : trafficStep hashtext traffic action = some next) : next.Sourced posted := by
  have isolated := sourced.isolated.step stepped
  cases action with
  | server action =>
      rw [trafficStep, Option.map_eq_some_iff] at stepped
      obtain ⟨server, stepped, rfl⟩ := stepped
      refine ⟨isolated, sourced_step sourced.server posts stepped, ?_⟩
      exact fun page member record there =>
        (sourced.pages page member record there).mono (settled_grows stepped)
  | vaultOwnedBy request =>
      rw [trafficStep] at stepped
      split at stepped <;> cases stepped
      · exact ⟨isolated, sourced.server, sourced.pages⟩
      · exact sourced
  | listChanges request =>
      rw [trafficStep] at stepped
      split at stepped
      · cases stepped
        refine ⟨isolated, sourced.server, ?_⟩
        intro page there record listed
        rcases List.mem_append.mp there with old | new
        · exact sourced.pages page old record listed
        · cases List.mem_singleton.mp new
          obtain ⟨row, found, rfl⟩ := List.mem_map.mp listed
          obtain ⟨⟨key, stored⟩, -⟩ := mem_listChanges found
          exact ⟨row, request.backend, sourced.server.rows key row stored, rfl⟩
      · cases stepped

theorem Traffic.Sourced.run {actions : List TrafficAction} (sourced : traffic.Sourced posted)
    (posts : ∀ action ∈ actions, action.Posts posted)
    (ran : Transition.run (trafficStep hashtext) traffic actions = some next) :
    next.Sourced posted := by
  induction actions generalizing traffic with
  | nil =>
      cases ran
      exact sourced
  | cons action rest ih =>
      rw [run_cons, Option.bind_eq_some_iff] at ran
      obtain ⟨after, stepped, rest_ran⟩ := ran
      exact ih (sourced.step (posts action (List.mem_cons_self ..)) stepped)
        (fun later member => posts later (List.mem_cons_of_mem _ member)) rest_ran

/-- The account was given the record: on a page, or in an answer to one of its requests. -/
def Traffic.Gave (traffic : Traffic) (accountId : Id) (record : ItemRecord) : Prop :=
  (∃ page ∈ traffic.pages, page.1 = accountId ∧ record ∈ page.2) ∨
    ∃ entry ∈ traffic.server.settled, entry.accountId = accountId ∧
      ∃ statusCode body, entry.outcome = .response statusCode body ∧ body.shown = record

theorem shown_mem_vaultIds (body : ResponseBody) : body.shown.vaultId ∈ body.vaultIds := by
  cases body <;> simp [ResponseBody.shown, ResponseBody.vaultIds]

theorem Traffic.Isolated.gave (isolated : traffic.Isolated) {accountId : Id} {record : ItemRecord}
    (gave : traffic.Gave accountId record) :
    traffic.server.owner record.vaultId = some accountId := by
  rcases gave with ⟨page, member, rfl, listed⟩ | ⟨entry, member, rfl, statusCode, body, answer, rfl⟩
  · exact isolated.pages page member record listed
  · exact isolated.server.settled entry member statusCode body answer _ (shown_mem_vaultIds body)

theorem Traffic.Sourced.gave (sourced : traffic.Sourced posted) {accountId : Id}
    {record : ItemRecord} (gave : traffic.Gave accountId record) :
    ∃ entry ∈ traffic.server.settled, entry.accountId = accountId ∧
      ∃ row backend shownBy, Origin posted backend entry row ∧
        record = toItemRecord shownBy row := by
  have owned := sourced.isolated.gave gave
  have version : Version posted traffic.server.settled record := by
    rcases gave with ⟨page, member, -, listed⟩ | ⟨entry, member, -, statusCode, body, answer, rfl⟩
    · exact sourced.pages page member record listed
    · exact sourced.server.answers entry member statusCode body answer
  obtain ⟨row, shownBy, ⟨entry, member, backend, origin⟩, rfl⟩ := version
  refine ⟨entry, member, ?_, row, backend, shownBy, origin, rfl⟩
  have writer := sourced.isolated.server.settled entry member 201 _ origin.outcome row.vaultId
    (List.mem_singleton.mpr rfl)
  exact Option.some.inj (writer.symm.trans owned)

end Traffic

end ZenPass.Sync
