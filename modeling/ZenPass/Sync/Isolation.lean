import ZenPass.Sync.ChangeFeed

set_option autoImplicit false

namespace ZenPass.Sync

open Wire ReadCommitted Transition

abbrev Server.owner (server : Server) (vaultId : Id) : Option Id := (server.vaults vaultId).committed

def ResponseBody.vaultIds : ResponseBody → List Id
  | .record item => [item.vaultId]
  | .conflict _ current attempted => [current.vaultId, attempted.vaultId]

structure ChangesRequest where
  backend : Backend
  accountId : Id
  vaultId : Id
  afterSequence : Nat
  limit : Nat
deriving DecidableEq, Repr

/-- `authorized` are requests whose page has not been read yet, `pages` the pages and the accounts
that they went to. -/
structure Traffic where
  server : Server
  authorized : List ChangesRequest
  pages : List (Id × List ItemRecord)

def Traffic.initial : Traffic := ⟨.initial, [], []⟩

inductive TrafficAction where
  | server (action : Action)
  | vaultOwnedBy (request : ChangesRequest)
  | listChanges (request : ChangesRequest)

def trafficStep (hashtext : String → Int) (traffic : Traffic) : TrafficAction → Option Traffic
  | .server action => (step hashtext traffic.server action).map fun server => { traffic with server }
  | .vaultOwnedBy request =>
      if isValidId request.vaultId && vaultOwnedBy traffic.server request.accountId request.vaultId then
        some { traffic with authorized := request :: traffic.authorized }
      else some traffic
  | .listChanges request =>
      if request ∈ traffic.authorized then
        let rows := listChanges traffic.server request.vaultId request.afterSequence request.limit
        some { traffic with
          authorized := traffic.authorized.erase request
          pages := traffic.pages ++ [(request.accountId, rows.map (toItemRecord request.backend))] }
      else none

section Confined

variable {owner next : Id → Option Id} {tx : Tx} {body : ResponseBody} {accountId : Id}

def BodyOwned (owner : Id → Option Id) (accountId : Id) (body : ResponseBody) : Prop :=
  ∀ vaultId ∈ body.vaultIds, owner vaultId = some accountId

def Tx.Owns (owner : Id → Option Id) (tx : Tx) : Prop :=
  tx.vault = some tx.accountId ∨ owner tx.vaultKey = some tx.accountId

def OfVault (tx : Tx) (body : ResponseBody) : Prop := ∀ vaultId ∈ body.vaultIds, vaultId = tx.vaultKey

/-- The request is past `selectVault`, and has found its account there. -/
def Phase.pastOwnership : Phase → Bool
  | .getItemForUpdate | .nextval | .upsertItem _ | .recordMutationOutcome _ _ => true
  | _ => false

structure Confined (owner : Id → Option Id) (tx : Tx) : Prop where
  inserted : ∀ account, tx.vault = some account → account = tx.accountId ∧ owner tx.vaultKey = none
  owns : tx.phase.pastOwnership = true → tx.Owns owner
  item : tx.item.isSome = true → tx.Owns owner
  recorded : ∀ outcome, tx.recorded = some outcome →
    tx.Owns owner ∧ OfVault tx outcome.responseBody
  recording : ∀ statusCode body, tx.phase = .recordMutationOutcome statusCode body → OfVault tx body
  finishing : ∀ statusCode body, tx.phase = .finish (.response statusCode body) →
    BodyOwned owner tx.accountId body ∨ ∃ outcome, tx.recorded = some outcome ∧
      outcome.responseBody = body

def OwnersKept (owner next : Id → Option Id) : Prop :=
  ∀ vaultId account, owner vaultId = some account → next vaultId = some account

theorem BodyOwned.mono (owned : BodyOwned owner accountId body) (kept : OwnersKept owner next) :
    BodyOwned next accountId body :=
  fun vaultId member => kept vaultId accountId (owned vaultId member)

theorem Tx.Owns.mono (owns : tx.Owns owner) (kept : OwnersKept owner next) : tx.Owns next :=
  owns.imp_right (kept tx.vaultKey tx.accountId)

theorem Confined.mono (confined : Confined owner tx) (kept : OwnersKept owner next)
    (held : tx.vault.isSome = true → next tx.vaultKey = owner tx.vaultKey) : Confined next tx where
  inserted account vault := by
    obtain ⟨same, free⟩ := confined.inserted account vault
    exact ⟨same, (held (by rw [vault]; rfl)).trans free⟩
  owns past := (confined.owns past).mono kept
  item held := (confined.item held).mono kept
  recorded outcome is := ⟨(confined.recorded outcome is).1.mono kept, (confined.recorded outcome is).2⟩
  recording := confined.recording
  finishing statusCode body phase := (confined.finishing statusCode body phase).imp_left
    fun owned => owned.mono kept

end Confined

/-- No record of a vault is where another account's responses come from. -/
structure Server.Isolated (server : Server) : Prop where
  locked : Locked server
  confined : ∀ t tx, server.txs t = some tx → Confined server.owner tx
  items : ∀ key row, server.rows key = some row → (server.owner key.1).isSome = true
  outcomes : ∀ key outcome, server.recordedOutcome key = some outcome →
    BodyOwned server.owner key.1 outcome.responseBody
  settled : ∀ entry ∈ server.settled, ∀ statusCode body,
    entry.outcome = .response statusCode body → BodyOwned server.owner entry.accountId body

theorem isolated_initial : Server.initial.Isolated where
  locked := locked_initial
  confined _ _ opened := by cases opened
  items _ _ found := by cases found
  outcomes _ _ found := by cases found
  settled _ member := by cases member

section Steps

variable {server next after : Server} {t : TxId} {tx tx' : Tx}

theorem Server.Isolated.resume (isolated : server.Isolated) (locked : Locked (after.resume t tx'))
    (txs : after.txs = server.txs) (owner : after.owner = server.owner)
    (rows : after.rows = server.rows) (outcomes : after.recordedOutcome = server.recordedOutcome)
    (settled : after.settled = server.settled) (confined : Confined server.owner tx') :
    (after.resume t tx').Isolated := by
  refine ⟨locked, ?_, ?_, ?_, ?_⟩
  · change ∀ u other, _ → Confined after.owner other
    rw [owner]
    apply forall_resume _ confined
    rw [txs]
    exact isolated.confined
  · change ∀ key row, after.rows key = some row → (after.owner key.1).isSome = true
    rw [rows, owner]
    exact isolated.items
  · change ∀ key outcome, after.recordedOutcome key = some outcome →
      BodyOwned after.owner key.1 outcome.responseBody
    rw [outcomes, owner]
    exact isolated.outcomes
  · change ∀ entry ∈ after.settled, ∀ statusCode body, _ → BodyOwned after.owner entry.accountId body
    rw [settled, owner]
    exact isolated.settled

theorem commit_owner (locked : Locked server) (opened : server.txs t = some tx) :
    (server.commit t).owner =
      match tx.vault with
      | some account => Function.update server.owner tx.vaultKey (some account)
      | none => server.owner := by
  funext key
  change (server.vaults.commit t key).committed = _
  rw [locked.vaults.commit_committed opened]
  cases tx.vault with
  | none => rfl
  | some account =>
      by_cases same : tx.vaultKey = key
      · subst same
        simp
      · simp [same, Function.update_of_ne (Ne.symm same)]

theorem commit_ownersKept (isolated : server.Isolated) (opened : server.txs t = some tx) :
    OwnersKept server.owner (server.commit t).owner := by
  intro vaultId account owned
  rw [commit_owner isolated.locked opened]
  cases vault : tx.vault with
  | none => exact owned
  | some inserted =>
      have free := ((isolated.confined t tx opened).inserted inserted vault).2
      have different : vaultId ≠ tx.vaultKey := by
        rintro rfl
        rw [free] at owned
        cases owned
      simp only [Function.update_of_ne different]
      exact owned

theorem owner_of_owns (isolated : server.Isolated) (opened : server.txs t = some tx)
    (owns : tx.Owns server.owner) : (server.commit t).owner tx.vaultKey = some tx.accountId := by
  rcases owns with inserted | owned
  · rw [commit_owner isolated.locked opened, inserted]
    exact Function.update_self _ _ _
  · exact commit_ownersKept isolated opened _ _ owned

theorem Server.Isolated.commits (isolated : server.Isolated) (opened : server.txs t = some tx)
    {outcome : ApplyOutcome} (phase : tx.phase = .finish outcome) :
    (((server.commit t).settle tx outcome).releaseLocks t).Isolated := by
  have kept := commit_ownersKept isolated opened
  have mine := isolated.confined t tx opened
  refine ⟨isolated.locked.commit opened outcome, ?_, ?_, ?_, ?_⟩
  · intro u other open_
    change Function.update server.txs t none u = some other at open_
    have different : u ≠ t := by
      rintro rfl
      rw [Function.update_self] at open_
      cases open_
    rw [Function.update_of_ne different] at open_
    refine (isolated.confined u other open_).mono kept fun held => ?_
    change (server.commit t).owner other.vaultKey = server.owner other.vaultKey
    rw [commit_owner isolated.locked opened]
    cases vault : tx.vault with
    | none => rfl
    | some account =>
        apply Function.update_of_ne
        intro same
        obtain ⟨claimed, held⟩ := Option.isSome_iff_exists.mp held
        exact different (isolated.locked.vaults.exclusive open_ opened same (by rw [held]; rfl)
          (by rw [vault]; rfl))
  · intro key row found
    change (server.commit t).rows key = some row at found
    change ((server.commit t).owner key.1).isSome = true
    rw [isolated.locked.commit_rows opened] at found
    have old (there : server.rows key = some row) : ((server.commit t).owner key.1).isSome = true := by
      obtain ⟨account, owned⟩ := Option.isSome_iff_exists.mp (isolated.items key row there)
      rw [kept _ _ owned]
      rfl
    cases item : tx.item with
    | none =>
        rw [item] at found
        exact old found
    | some held =>
        rw [item] at found
        by_cases same : key = tx.itemKey
        · have owned := owner_of_owns isolated opened (mine.item (by rw [item]; rfl))
          rw [same]
          change ((server.commit t).owner tx.vaultKey).isSome = true
          rw [owned]
          rfl
        · simp only [Function.update_of_ne same] at found
          exact old found
  · intro key recorded found
    change (server.commit t).recordedOutcome key = some recorded at found
    change BodyOwned (server.commit t).owner key.1 recorded.responseBody
    rw [isolated.locked.commit_outcomes opened] at found
    cases held : tx.recorded with
    | none =>
        rw [held] at found
        exact (isolated.outcomes key recorded found).mono kept
    | some row =>
        rw [held] at found
        by_cases same : key = tx.outcomeKey
        · subst same
          simp only [Function.update_self, Option.some.injEq] at found
          subst found
          obtain ⟨owns, ofVault⟩ := mine.recorded row held
          intro vaultId member
          rw [ofVault vaultId member]
          exact owner_of_owns isolated opened owns
        · simp only [Function.update_of_ne same] at found
          exact (isolated.outcomes key recorded found).mono kept
  · intro entry member statusCode body is
    change BodyOwned (server.commit t).owner entry.accountId body
    rcases List.mem_append.mp member with old | new
    · exact (isolated.settled entry old statusCode body is).mono kept
    · cases List.mem_singleton.mp new
      change outcome = .response statusCode body at is
      rw [is] at phase
      rcases mine.finishing statusCode body phase with owned | ⟨recorded, held, rfl⟩
      · exact owned.mono kept
      · obtain ⟨owns, ofVault⟩ := mine.recorded recorded held
        intro vaultId member
        rw [ofVault vaultId member]
        exact owner_of_owns isolated opened owns

theorem rollback_owner (server : Server) (t : TxId) : (server.rollback t).owner = server.owner :=
  funext fun _ => Table.abort_committed _ _ _

theorem Server.Isolated.rollsBack (isolated : server.Isolated) {outcome : ApplyOutcome}
    (bodiless : ∀ statusCode body, outcome ≠ .response statusCode body) :
    (((server.rollback t).settle tx outcome).releaseLocks t).Isolated := by
  refine ⟨isolated.locked.rollback tx outcome, ?_, ?_, ?_, ?_⟩
  · change ∀ u other, _ → Confined (server.rollback t).owner other
    rw [rollback_owner]
    exact forall_close isolated.confined
  · change ∀ key row, (server.rollback t).rows key = some row →
      ((server.rollback t).owner key.1).isSome = true
    rw [server.rollback_rows, rollback_owner]
    exact isolated.items
  · change ∀ key recorded, (server.rollback t).recordedOutcome key = some recorded →
      BodyOwned (server.rollback t).owner key.1 recorded.responseBody
    rw [server.rollback_outcomes, rollback_owner]
    exact isolated.outcomes
  · intro entry member statusCode body is
    change BodyOwned (server.rollback t).owner entry.accountId body
    rw [rollback_owner]
    rcases List.mem_append.mp member with old | new
    · exact isolated.settled entry old statusCode body is
    · cases List.mem_singleton.mp new
      exact absurd is (bodiless statusCode body)

section Phases

variable {owner : Id → Option Id}

theorem Confined.goesTo (confined : Confined owner tx) {phase : Phase}
    (owns : phase.pastOwnership = true → tx.Owns owner)
    (recording : ∀ statusCode body, phase = .recordMutationOutcome statusCode body → OfVault tx body)
    (finishing : ∀ statusCode body, phase = .finish (.response statusCode body) →
      BodyOwned owner tx.accountId body ∨ ∃ outcome, tx.recorded = some outcome ∧
        outcome.responseBody = body) : Confined owner { tx with phase } where
  inserted := confined.inserted
  owns := owns
  item := confined.item
  recorded := confined.recorded
  recording := recording
  finishing := finishing

def Phase.answers : Phase → Bool
  | .recordMutationOutcome _ _ | .finish (.response _ _) => true
  | _ => false

theorem Confined.proceeds (confined : Confined owner tx) {phase : Phase}
    (owns : phase.pastOwnership = true → tx.Owns owner) (bodiless : phase.answers = false) :
    Confined owner { tx with phase } := by
  refine confined.goesTo owns (fun statusCode body is => ?_) fun statusCode body is => ?_
  · rw [is] at bodiless
    cases bodiless
  · rw [is] at bodiless
    cases bodiless

theorem Confined.holds (confined : Confined owner tx) (owns : tx.Owns owner) {phase : Phase}
    (item : Option ItemRow)
    (recording : ∀ statusCode body, phase = .recordMutationOutcome statusCode body → OfVault tx body)
    (finishing : ∀ outcome, phase ≠ .finish outcome) : Confined owner { tx with item, phase } where
  inserted := confined.inserted
  owns _ := owns
  item _ := owns
  recorded := confined.recorded
  recording := recording
  finishing _ _ is := absurd is (finishing _)

theorem confined_compareRevision (confined : Confined owner tx) (owns : tx.Owns owner)
    {existing : Option ItemRow} (keyed : ∀ row, existing = some row → row.key = tx.itemKey) :
    Confined owner (compareRevision tx existing) := by
  unfold compareRevision
  dsimp only
  split
  · cases existing with
    | none => exact confined.proceeds nofun rfl
    | some row =>
        refine confined.holds owns (some row) ?_ nofun
        rintro _ _ ⟨⟩ vaultId member
        have own : row.vaultId = tx.vaultKey := (Prod.mk.inj (keyed row rfl)).1
        simp only [ResponseBody.vaultIds, List.mem_cons, List.not_mem_nil, or_false] at member
        rcases member with rfl | rfl
        · exact own
        · rfl
  · exact confined.holds owns existing nofun nofun

theorem confined_written (confined : Confined owner tx) (owns : tx.Owns owner) {row : ItemRow}
    (vault : row.vaultId = tx.vaultKey) : Confined owner (tx.written row) := by
  refine confined.holds owns (some row) ?_ nofun
  rintro _ _ ⟨⟩ vaultId member
  rw [ResponseBody.vaultIds, List.mem_singleton] at member
  exact member.trans vault

end Phases

theorem Server.Isolated.statement (isolated : server.Isolated) (opened : server.txs t = some tx)
    (executed : Executed server t tx next) : next.Isolated := by
  have locked := isolated.locked.statement opened executed
  have holds := isolated.locked.holds t tx opened
  have mine := isolated.confined t tx opened
  have owns (past : tx.phase.pastOwnership = true) := mine.owns past
  unfold Tx.Holds at holds
  cases executed with
  | replay row phase found =>
      refine ⟨locked, forall_close isolated.confined, isolated.items, isolated.outcomes, ?_⟩
      intro entry member statusCode body is
      rcases List.mem_append.mp member with old | new
      · exact isolated.settled entry old statusCode body is
      · cases List.mem_singleton.mp new
        cases is
        exact isolated.outcomes _ row found
  | noReplay phase =>
      exact isolated.resume locked rfl rfl rfl rfl rfl (mine.proceeds nofun rfl)
  | lock key phase =>
      exact isolated.resume locked rfl rfl rfl rfl rfl (mine.proceeds nofun rfl)
  | outcome row phase found =>
      rw [phase] at holds
      rw [isolated.locked.outcomes.view opened, holds.2.2] at found
      refine isolated.resume locked rfl rfl rfl rfl rfl (mine.goesTo nofun nofun ?_)
      rintro _ _ ⟨⟩
      exact .inl (isolated.outcomes _ row found)
  | noOutcome phase =>
      exact isolated.resume locked rfl rfl rfl rfl rfl (mine.proceeds nofun rfl)
  | vaultExists phase =>
      exact isolated.resume locked rfl rfl rfl rfl rfl (mine.proceeds nofun rfl)
  | vaultInserted phase absent available =>
      rw [phase] at holds
      obtain ⟨-, item, recorded⟩ := holds
      have owner : ({ server with
          vaults := server.vaults.hold tx.vaultKey t (some tx.accountId) } : Server).owner =
            server.owner := funext fun _ => Table.hold_committed _ _ _ _ _
      refine isolated.resume locked rfl owner rfl rfl rfl ⟨?_, nofun, ?_, ?_, nofun, nofun⟩
      · rintro account ⟨⟩
        exact ⟨rfl, absent⟩
      · exact fun held => by simp [item] at held
      · exact fun outcome held => by simp [recorded] at held
  | owner phase owned =>
      have inserted (account : Id) (vault : tx.vault = some account) : account = tx.accountId :=
        (mine.inserted account vault).1
      have owner : tx.Owns server.owner := by
        rw [isolated.locked.vaults.view opened] at owned
        cases vault : tx.vault with
        | none =>
            rw [vault] at owned
            exact .inr owned
        | some account =>
            rw [inserted account vault] at vault
            exact .inl vault
      exact isolated.resume locked rfl rfl rfl rfl rfl (mine.proceeds (fun _ => owner) rfl)
  | notOwner phase =>
      exact isolated.resume locked rfl rfl rfl rfl rfl (mine.proceeds nofun rfl)
  | noItem phase absent =>
      exact isolated.resume locked rfl rfl rfl rfl rfl
        (confined_compareRevision mine (owns (by rw [phase]; rfl)) nofun)
  | item row phase found available =>
      have rows : ({ server with
          items := server.items.hold tx.itemKey t (some row) } : Server).rows = server.rows :=
        funext fun _ => Table.hold_committed _ _ _ _ _
      refine isolated.resume locked rfl rfl rows rfl rfl
        (confined_compareRevision mine (owns (by rw [phase]; rfl)) ?_)
      rintro _ ⟨⟩
      exact isolated.locked.keyed _ row found
  | drawn phase =>
      exact isolated.resume locked rfl rfl rfl rfl rfl
        (mine.proceeds (fun _ => owns (by rw [phase]; rfl)) rfl)
  | inserted proposed phase available absent =>
      have rows : ({ server with
          items := server.items.hold tx.itemKey t (some (insertedRow tx proposed))
          itemKeys := server.itemKeys.insert tx.itemKey } : Server).rows = server.rows :=
        funext fun _ => Table.hold_committed _ _ _ _ _
      exact isolated.resume locked rfl rfl rows rfl rfl
        (confined_written mine (owns (by rw [phase]; rfl)) rfl)
  | updated proposed current phase available found =>
      have rows : ({ server with
          vaultChangeSequence := server.vaultChangeSequence + 1
          items := server.items.hold tx.itemKey t
            (some (updatedRow tx current (server.vaultChangeSequence + 1))) } : Server).rows =
            server.rows := funext fun _ => Table.hold_committed _ _ _ _ _
      have vault : current.vaultId = tx.vaultKey :=
        (Prod.mk.inj (isolated.locked.keyed _ current found)).1
      exact isolated.resume locked rfl rfl rows rfl rfl
        (confined_written mine (owns (by rw [phase]; rfl)) vault)
  | duplicate statusCode body row phase =>
      exact isolated.resume locked rfl rfl rfl rfl rfl (mine.proceeds nofun rfl)
  | recorded statusCode body phase available absent =>
      have outcomes : ({ server with
          outcomes := server.outcomes.hold tx.outcomeKey t
            (some ⟨tx.mutation.vaultId, statusCode, body⟩) } : Server).recordedOutcome =
            server.recordedOutcome := funext fun _ => Table.hold_committed _ _ _ _ _
      have here := owns (by rw [phase]; rfl)
      refine isolated.resume locked rfl rfl rfl outcomes rfl
        ⟨mine.inserted, nofun, fun _ => here, ?_, nofun, ?_⟩
      · rintro _ ⟨⟩
        exact ⟨here, mine.recording statusCode body phase⟩
      · rintro _ _ ⟨⟩
        exact .inr ⟨_, rfl, rfl⟩
  | finished outcome phase =>
      split
      · exact isolated.commits opened phase
      · rename_i refused
        refine isolated.rollsBack fun _ _ is => refused ?_
        rw [is]
        cases tx.backend <;> rfl

theorem isolated_step {hashtext : String → Int} {action : Action} (isolated : server.Isolated)
    (stepped : step hashtext server action = some next) : next.Isolated := by
  have locked := locked_step isolated.locked stepped
  cases step_cases stepped with
  | accepted t backend accountId vaultId mutation now tx closed checked =>
      obtain ⟨-, phase, vault, item, recorded⟩ := postItem_correct checked
      refine isolated.resume locked rfl rfl rfl rfl rfl ⟨?_, ?_, ?_, ?_, ?_, ?_⟩
      · simp [vault]
      · simp [phase, Phase.pastOwnership]
      · simp [item]
      · simp [recorded]
      · simp [phase]
      · simp [phase]
  | refused t backend accountId vaultId mutation now =>
      refine ⟨locked, isolated.confined, isolated.items, isolated.outcomes, ?_⟩
      intro entry member statusCode body is
      rcases List.mem_append.mp member with old | new
      · exact isolated.settled entry old statusCode body is
      · cases List.mem_singleton.mp new
        cases is
  | statement t tx next opened executed => exact isolated.statement opened executed
  | failed t tx opened => exact isolated.rollsBack nofun

theorem Executed.quiet (executed : Executed server t tx next) :
    (next.owner = server.owner ∧ next.rows = server.rows) ∨
      ∃ outcome, tx.phase = .finish outcome ∧
        next = ((server.commit t).settle tx outcome).releaseLocks t := by
  have held {K V : Type} [DecidableEq K] (table : Table K TxId V) (key : K) (version : Option V) :
      (fun other => (table.hold key t version other).committed) = fun other =>
        (table other).committed := funext fun other => Table.hold_committed _ _ _ _ _
  cases executed with
  | vaultInserted => exact .inl ⟨held _ _ _, rfl⟩
  | item => exact .inl ⟨rfl, held _ _ _⟩
  | inserted => exact .inl ⟨rfl, held _ _ _⟩
  | updated => exact .inl ⟨rfl, held _ _ _⟩
  | finished outcome phase =>
      split
      · exact .inr ⟨outcome, phase, rfl⟩
      · exact .inl ⟨rollback_owner server t, server.rollback_rows t⟩
  | _ => exact .inl ⟨rfl, rfl⟩

structure KeepsVaults (server : Server) (action : Action) (next : Server) : Prop where
  kept : OwnersKept server.owner next.owner
  writes : ∀ key, next.rows key ≠ server.rows key → ∃ t tx, action = .statement t ∧
    server.txs t = some tx ∧ next.owner key.1 = some tx.accountId

theorem keepsVaults_quiet {action : Action} (owner : next.owner = server.owner)
    (rows : next.rows = server.rows) : KeepsVaults server action next where
  kept vaultId account owned := by rw [owner, owned]
  writes key changed := absurd (by rw [rows]) changed

theorem keepsVaults_step {hashtext : String → Int} {action : Action} (isolated : server.Isolated)
    (stepped : step hashtext server action = some next) : KeepsVaults server action next := by
  cases step_cases stepped with
  | accepted => exact keepsVaults_quiet rfl rfl
  | refused => exact keepsVaults_quiet rfl rfl
  | failed t tx opened =>
      exact keepsVaults_quiet (rollback_owner server t) (server.rollback_rows t)
  | statement t tx next opened executed =>
      rcases executed.quiet with ⟨owner, rows⟩ | ⟨outcome, phase, rfl⟩
      · exact keepsVaults_quiet owner rows
      · refine ⟨commit_ownersKept isolated opened, fun key changed => ⟨t, tx, rfl, opened, ?_⟩⟩
        change (server.commit t).rows key ≠ server.rows key at changed
        change (server.commit t).owner key.1 = some tx.accountId
        rw [isolated.locked.commit_rows opened] at changed
        cases item : tx.item with
        | none =>
            rw [item] at changed
            exact absurd rfl changed
        | some row =>
            have same : key = tx.itemKey := by
              by_contra different
              rw [item] at changed
              exact changed (Function.update_of_ne different _ _)
            rw [same]
            exact owner_of_owns isolated opened
              ((isolated.confined t tx opened).item (by rw [item]; rfl))

end Steps

section Traffic

variable {hashtext : String → Int} {traffic next : Traffic} {action : TrafficAction}

structure Traffic.Isolated (traffic : Traffic) : Prop where
  server : traffic.server.Isolated
  authorized : ∀ request ∈ traffic.authorized,
    traffic.server.owner request.vaultId = some request.accountId
  pages : ∀ page ∈ traffic.pages, ∀ record ∈ page.2,
    traffic.server.owner record.vaultId = some page.1

theorem Traffic.isolated_initial : Traffic.initial.Isolated where
  server := Sync.isolated_initial
  authorized _ member := by cases member
  pages _ member := by cases member

theorem Traffic.Isolated.step (isolated : traffic.Isolated)
    (stepped : trafficStep hashtext traffic action = some next) : next.Isolated := by
  cases action with
  | server action =>
      rw [trafficStep, Option.map_eq_some_iff] at stepped
      obtain ⟨server, stepped, rfl⟩ := stepped
      have kept := (keepsVaults_step isolated.server stepped).kept
      refine ⟨isolated_step isolated.server stepped, ?_, ?_⟩
      · exact fun request member => kept _ _ (isolated.authorized request member)
      · exact fun page member record there => kept _ _ (isolated.pages page member record there)
  | vaultOwnedBy request =>
      rw [trafficStep] at stepped
      split at stepped
      · rename_i owned
        cases stepped
        rw [Bool.and_eq_true, vaultOwnedBy, beq_iff_eq] at owned
        refine ⟨isolated.server, ?_, isolated.pages⟩
        intro other member
        rcases List.mem_cons.mp member with rfl | member
        · exact owned.2
        · exact isolated.authorized other member
      · cases stepped
        exact isolated
  | listChanges request =>
      rw [trafficStep] at stepped
      split at stepped
      · rename_i member
        cases stepped
        refine ⟨isolated.server, ?_, ?_⟩
        · exact fun other there => isolated.authorized other (List.mem_of_mem_erase there)
        · intro page there record listed
          rcases List.mem_append.mp there with old | new
          · exact isolated.pages page old record listed
          · cases List.mem_singleton.mp new
            obtain ⟨row, found, rfl⟩ := List.mem_map.mp listed
            have vault := (mem_listChanges found).2.1
            change traffic.server.owner row.vaultId = some request.accountId
            rw [vault]
            exact isolated.authorized request member
      · cases stepped

theorem Traffic.Isolated.run {actions : List TrafficAction} (isolated : traffic.Isolated)
    (ran : run (trafficStep hashtext) traffic actions = some next) : next.Isolated := by
  refine run_preserves ?_ isolated ran
  intro state action after isolated stepped
  exact isolated.step stepped

/-- In every state that requests of any accounts reach, responses have only records of vaults of
the account that they answer; and no step changes an owner, or a row of a vault that is not the
account's whose statement it is. -/
theorem vault_isolation {actions : List TrafficAction}
    (ran : Transition.run (trafficStep hashtext) Traffic.initial actions = some traffic) :
    (∀ entry ∈ traffic.server.settled, ∀ statusCode body,
      entry.outcome = .response statusCode body → ∀ vaultId ∈ body.vaultIds,
        traffic.server.owner vaultId = some entry.accountId) ∧
      (∀ page ∈ traffic.pages, ∀ record ∈ page.2,
        traffic.server.owner record.vaultId = some page.1) ∧
      ∀ action next, trafficStep hashtext traffic action = some next →
        (∀ vaultId account, traffic.server.owner vaultId = some account →
          next.server.owner vaultId = some account) ∧
        ∀ key, next.server.rows key ≠ traffic.server.rows key →
          ∃ t tx, action = .server (.statement t) ∧ traffic.server.txs t = some tx ∧
            next.server.owner key.1 = some tx.accountId := by
  have isolated := Traffic.isolated_initial.run ran
  refine ⟨isolated.server.settled, isolated.pages, ?_⟩
  intro action next stepped
  have quiet {after : Traffic} (same : after.server = traffic.server) :
      (∀ vaultId account, traffic.server.owner vaultId = some account →
        after.server.owner vaultId = some account) ∧
      ∀ key, after.server.rows key ≠ traffic.server.rows key →
        ∃ t tx, action = .server (.statement t) ∧ traffic.server.txs t = some tx ∧
          after.server.owner key.1 = some tx.accountId := by
    rw [same]
    exact ⟨fun _ _ owned => owned, fun key changed => absurd rfl changed⟩
  cases action with
  | server action =>
      rw [trafficStep, Option.map_eq_some_iff] at stepped
      obtain ⟨server, stepped, rfl⟩ := stepped
      obtain ⟨kept, writes⟩ := keepsVaults_step isolated.server stepped
      refine ⟨kept, fun key changed => ?_⟩
      obtain ⟨t, tx, rfl, opened, owned⟩ := writes key changed
      exact ⟨t, tx, rfl, opened, owned⟩
  | vaultOwnedBy request =>
      rw [trafficStep] at stepped
      split at stepped <;> cases stepped <;> exact quiet rfl
  | listChanges request =>
      rw [trafficStep] at stepped
      split at stepped <;> cases stepped
      exact quiet rfl

end Traffic

section Samples

def claimedVault : List TrafficAction :=
  let request : ChangesRequest := ⟨.node, "first", "vault", 0, 100⟩
  [.server (.postItem 0 .node "first" "vault" (sampleMutation "m1" "item" "b64:AAAA" 0) 1000),
    .server (.postItem 1 .rust "second" "vault" (sampleMutation "m1" "item" "b64:AQAA" 0) 1000)] ++
  (List.replicate 10 (.server (.statement 0))) ++ (List.replicate 6 (.server (.statement 1))) ++
  [.vaultOwnedBy request, .listChanges request]

theorem vault_isolation_claimed :
    let traffic := reached (trafficStep lengthHash) .initial claimedVault
    traffic.server.settled.length = 2 ∧ traffic.pages.length = 1 ∧
      ∀ page ∈ traffic.pages, ∀ record ∈ page.2,
        traffic.server.owner record.vaultId = some page.1 := by
  have ran : run (trafficStep lengthHash) .initial claimedVault =
      some (reached (trafficStep lengthHash) .initial claimedVault) := run_reached (by decide +kernel)
  exact ⟨by decide +kernel, by decide +kernel, (vault_isolation ran).2.1⟩

end Samples

end ZenPass.Sync
