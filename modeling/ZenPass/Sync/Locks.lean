import ZenPass.Sync.Server

set_option autoImplicit false

namespace ZenPass.Sync

open Wire ReadCommitted

abbrev Server.rows (server : Server) (key : Id × Id) : Option ItemRow :=
  (server.items key).committed

abbrev Server.recordedOutcome (server : Server) (key : Id × Id) : Option MutationOutcome :=
  (server.outcomes key).committed

def ItemRow.key (row : ItemRow) : Id × Id := (row.vaultId, row.itemId)

def Tx.Holds (tx : Tx) : Prop :=
  match tx.phase with
  | .findReplay | .acquireMutationLock | .findMutationOutcome | .insertVault =>
      tx.vault = none ∧ tx.item = none ∧ tx.recorded = none
  | .selectVault | .getItemForUpdate => tx.item = none ∧ tx.recorded = none
  | .nextval | .upsertItem _ | .recordMutationOutcome _ _ | .finish .failed => tx.recorded = none
  | .finish (.response _ _) => True
  | .finish _ => tx.item = none ∧ tx.recorded = none

/-- The open transactions hold exactly the rows they say they hold, and rows stand under their
own keys. -/
structure Locked (server : Server) : Prop where
  vaults : LocksOf Tx.vaultKey (fun tx => tx.vault.map some) server.txs server.vaults
  items : LocksOf Tx.itemKey (fun tx => tx.item.map some) server.txs server.items
  outcomes : LocksOf Tx.outcomeKey (fun tx => tx.recorded.map some) server.txs server.outcomes
  holds : ∀ t tx, server.txs t = some tx → tx.Holds
  keyed : ∀ key row, server.rows key = some row → row.key = key
  itemKeyed : ∀ t tx, server.txs t = some tx → ∀ row, tx.item = some row → row.key = tx.itemKey

theorem locked_initial : Locked Server.initial := by
  constructor <;> intros <;> simp_all [Server.initial, LocksOf]

section Resume

variable {server : Server} {t : TxId} {tx tx' : Tx}

structure SameRequest (tx tx' : Tx) : Prop where
  backend : tx'.backend = tx.backend
  accountId : tx'.accountId = tx.accountId
  mutation : tx'.mutation = tx.mutation
  ciphertext : tx'.ciphertext = tx.ciphertext

theorem SameRequest.vaultKey (same : SameRequest tx tx') : tx'.vaultKey = tx.vaultKey := by
  simp [Tx.vaultKey, same.mutation]

theorem SameRequest.itemKey (same : SameRequest tx tx') : tx'.itemKey = tx.itemKey := by
  simp [Tx.itemKey, same.mutation]

theorem SameRequest.outcomeKey (same : SameRequest tx tx') : tx'.outcomeKey = tx.outcomeKey := by
  simp [Tx.outcomeKey, same.mutation, same.accountId]

theorem forall_resume {property : Tx → Prop}
    (each : ∀ u other, server.txs u = some other → property other) (mine : property tx') :
    ∀ u other, (server.resume t tx').txs u = some other → property other := by
  intro u other opened
  change Function.update server.txs t (some tx') u = some other at opened
  by_cases same : u = t
  · subst same
    simp only [Function.update_self, Option.some.injEq] at opened
    exact opened ▸ mine
  · rw [Function.update_of_ne same] at opened
    exact each u other opened

theorem forall_close {property : Tx → Prop}
    (each : ∀ u other, server.txs u = some other → property other) :
    ∀ u other, Function.update server.txs t none u = some other → property other := by
  intro u other opened
  by_cases same : u = t
  · subst same
    simp at opened
  · rw [Function.update_of_ne same] at opened
    exact each u other opened

theorem Locked.moves (locked : Locked server) (opened : server.txs t = some tx)
    (same : SameRequest tx tx') (vault : tx'.vault = tx.vault) (item : tx'.item = tx.item)
    (recorded : tx'.recorded = tx.recorded) (holds : tx'.Holds) : Locked (server.resume t tx') where
  vaults := locked.vaults.advance opened same.vaultKey (by rw [vault])
  items := locked.items.advance opened same.itemKey (by rw [item])
  outcomes := locked.outcomes.advance opened same.outcomeKey (by rw [recorded])
  holds := forall_resume locked.holds holds
  keyed := locked.keyed
  itemKeyed := forall_resume locked.itemKeyed (by
    rw [item, same.itemKey]
    exact locked.itemKeyed t tx opened)

theorem Locked.takesItem (locked : Locked server) (opened : server.txs t = some tx)
    (available : (server.items tx.itemKey).available t = true) (row : ItemRow)
    (key : row.key = tx.itemKey) (keys : List (Id × Id)) (sequence : Nat)
    (same : SameRequest tx tx') (vault : tx'.vault = tx.vault) (item : tx'.item = some row)
    (recorded : tx'.recorded = tx.recorded) (holds : tx'.Holds) :
    Locked
      ({ server with
          vaultChangeSequence := sequence
          items := server.items.hold tx.itemKey t (some row)
          itemKeys := keys }.resume t tx') where
  vaults := locked.vaults.advance opened same.vaultKey (by rw [vault])
  items := locked.items.hold opened same.itemKey available (by rw [item]; rfl)
  outcomes := locked.outcomes.advance opened same.outcomeKey (by rw [recorded])
  holds := forall_resume locked.holds holds
  keyed := by
    intro other found member
    exact locked.keyed other found ((Table.hold_committed _ _ _ _ _).symm.trans member)
  itemKeyed := forall_resume locked.itemKeyed (by
    intro held here
    rw [item, Option.some.injEq] at here
    rw [← here, key, same.itemKey])

theorem Locked.takesVault (locked : Locked server) (opened : server.txs t = some tx)
    (available : (server.vaults tx.vaultKey).available t = true) (owner : Id)
    (same : SameRequest tx tx') (vault : tx'.vault = some owner) (item : tx'.item = tx.item)
    (recorded : tx'.recorded = tx.recorded) (holds : tx'.Holds) :
    Locked ({ server with vaults := server.vaults.hold tx.vaultKey t (some owner) }.resume t tx') where
  vaults := locked.vaults.hold opened same.vaultKey available (by rw [vault]; rfl)
  items := locked.items.advance opened same.itemKey (by rw [item])
  outcomes := locked.outcomes.advance opened same.outcomeKey (by rw [recorded])
  holds := forall_resume locked.holds holds
  keyed := locked.keyed
  itemKeyed := forall_resume locked.itemKeyed (by
    rw [item, same.itemKey]
    exact locked.itemKeyed t tx opened)

theorem Locked.takesOutcome (locked : Locked server) (opened : server.txs t = some tx)
    (available : (server.outcomes tx.outcomeKey).available t = true) (row : MutationOutcome)
    (same : SameRequest tx tx') (vault : tx'.vault = tx.vault) (item : tx'.item = tx.item)
    (recorded : tx'.recorded = some row) (holds : tx'.Holds) :
    Locked
      ({ server with outcomes := server.outcomes.hold tx.outcomeKey t (some row) }.resume t tx') where
  vaults := locked.vaults.advance opened same.vaultKey (by rw [vault])
  items := locked.items.advance opened same.itemKey (by rw [item])
  outcomes := locked.outcomes.hold opened same.outcomeKey available (by rw [recorded]; rfl)
  holds := forall_resume locked.holds holds
  keyed := locked.keyed
  itemKeyed := forall_resume locked.itemKeyed (by
    rw [item, same.itemKey]
    exact locked.itemKeyed t tx opened)

theorem Locked.starts (locked : Locked server) (closed : server.txs t = none)
    (vault : tx.vault = none) (item : tx.item = none) (recorded : tx.recorded = none)
    (holds : tx.Holds) : Locked (server.resume t tx) where
  vaults := locked.vaults.start closed (by rw [vault]; rfl)
  items := locked.items.start closed (by rw [item]; rfl)
  outcomes := locked.outcomes.start closed (by rw [recorded]; rfl)
  holds := forall_resume locked.holds holds
  keyed := locked.keyed
  itemKeyed := forall_resume locked.itemKeyed (by simp [item])

theorem Locked.commit_rows (locked : Locked server) (opened : server.txs t = some tx) :
    (server.commit t).rows =
      match tx.item with
      | some row => Function.update server.rows tx.itemKey (some row)
      | none => server.rows := by
  funext key
  change (server.items.commit t key).committed = _
  rw [locked.items.commit_committed opened]
  cases tx.item with
  | none => rfl
  | some row =>
      by_cases same : tx.itemKey = key
      · subst same
        simp
      · simp [same, Function.update_of_ne (Ne.symm same)]

theorem Locked.commit_outcomes (locked : Locked server) (opened : server.txs t = some tx) :
    (server.commit t).recordedOutcome =
      match tx.recorded with
      | some row => Function.update server.recordedOutcome tx.outcomeKey (some row)
      | none => server.recordedOutcome := by
  funext key
  change (server.outcomes.commit t key).committed = _
  rw [locked.outcomes.commit_committed opened]
  cases tx.recorded with
  | none => rfl
  | some row =>
      by_cases same : tx.outcomeKey = key
      · subst same
        simp
      · simp [same, Function.update_of_ne (Ne.symm same)]

theorem Locked.commit_elsewhere (locked : Locked server) (opened : server.txs t = some tx)
    {u : TxId} {other : Tx} (open_ : server.txs u = some other) (different : u ≠ t) :
    (other.item.isSome → (server.commit t).rows other.itemKey = server.rows other.itemKey) ∧
      (other.recorded.isSome →
        (server.commit t).recordedOutcome other.outcomeKey =
          server.recordedOutcome other.outcomeKey) := by
  rw [locked.commit_rows opened, locked.commit_outcomes opened]
  constructor
  · intro held
    obtain ⟨version, held⟩ := Option.isSome_iff_exists.mp held
    cases item : tx.item with
    | none => rfl
    | some row =>
        apply Function.update_of_ne
        intro same
        exact different (locked.items.exclusive open_ opened same (by rw [held]; rfl)
          (by rw [item]; rfl))
  · intro held
    obtain ⟨version, held⟩ := Option.isSome_iff_exists.mp held
    cases recorded : tx.recorded with
    | none => rfl
    | some row =>
        apply Function.update_of_ne
        intro same
        exact different (locked.outcomes.exclusive open_ opened same (by rw [held]; rfl)
          (by rw [recorded]; rfl))

theorem Server.rollback_rows (server : Server) (t : TxId) : (server.rollback t).rows = server.rows :=
  funext fun _ => Table.abort_committed _ _ _

theorem Server.rollback_outcomes (server : Server) (t : TxId) :
    (server.rollback t).recordedOutcome = server.recordedOutcome :=
  funext fun _ => Table.abort_committed _ _ _

theorem Locked.commit (locked : Locked server) (opened : server.txs t = some tx)
    (outcome : ApplyOutcome) :
    Locked (((server.commit t).settle tx outcome).releaseLocks t) where
  vaults := locked.vaults.commit t
  items := locked.items.commit t
  outcomes := locked.outcomes.commit t
  holds := forall_close locked.holds
  keyed := by
    intro key row found
    change (server.commit t).rows key = some row at found
    rw [locked.commit_rows opened] at found
    cases item : tx.item with
    | none =>
        rw [item] at found
        exact locked.keyed key row found
    | some held =>
        rw [item] at found
        by_cases same : key = tx.itemKey
        · subst same
          simp only [Function.update_self, Option.some.injEq] at found
          rw [← found]
          exact locked.itemKeyed t tx opened held item
        · simp only [Function.update_of_ne same] at found
          exact locked.keyed key row found
  itemKeyed := forall_close locked.itemKeyed

theorem Locked.rollback (locked : Locked server) (tx : Tx) (outcome : ApplyOutcome) :
    Locked (((server.rollback t).settle tx outcome).releaseLocks t) where
  vaults := locked.vaults.abort t
  items := locked.items.abort t
  outcomes := locked.outcomes.abort t
  holds := forall_close locked.holds
  keyed := by
    change ∀ key row, (server.rollback t).rows key = some row → row.key = key
    rw [server.rollback_rows t]
    exact locked.keyed
  itemKeyed := forall_close locked.itemKeyed

end Resume

section CompareRevision

variable (tx : Tx) (existing : Option ItemRow)

theorem compareRevision_cases :
    (existing = none ∧ compareRevision tx existing = { tx with phase := .finish .badRequest }) ∨
    (∃ row body, existing = some row ∧ compareRevision tx existing =
      { tx with item := some row, phase := .recordMutationOutcome 409 body }) ∨
    (tx.mutation.baseRevision = (existing.elim 0 ItemRow.revision : Nat) ∧
      compareRevision tx existing = { tx with item := existing, phase := .nextval }) := by
  unfold compareRevision
  dsimp only
  split
  · cases existing with
    | none => exact .inl ⟨rfl, rfl⟩
    | some row => exact .inr (.inl ⟨row, _, rfl, rfl⟩)
  · rename_i based
    exact .inr (.inr ⟨not_not.mp based, rfl⟩)

theorem sameRequest_compareRevision : SameRequest tx (compareRevision tx existing) := by
  obtain ⟨-, result⟩ | ⟨row, body, -, result⟩ | ⟨-, result⟩ := compareRevision_cases tx existing <;>
    rw [result] <;> exact ⟨rfl, rfl, rfl, rfl⟩

theorem compareRevision_vault : (compareRevision tx existing).vault = tx.vault := by
  obtain ⟨-, result⟩ | ⟨row, body, -, result⟩ | ⟨-, result⟩ := compareRevision_cases tx existing <;>
    rw [result]

theorem compareRevision_recorded : (compareRevision tx existing).recorded = tx.recorded := by
  obtain ⟨-, result⟩ | ⟨row, body, -, result⟩ | ⟨-, result⟩ := compareRevision_cases tx existing <;>
    rw [result]

theorem compareRevision_item (unheld : tx.item = none) :
    (compareRevision tx existing).item = existing := by
  obtain ⟨none_, result⟩ | ⟨row, body, some_, result⟩ | ⟨-, result⟩ :=
    compareRevision_cases tx existing <;> rw [result]
  · rw [none_]
    exact unheld
  · exact some_.symm

theorem compareRevision_phase (n : Nat) : (compareRevision tx existing).phase ≠ .upsertItem n := by
  obtain ⟨-, result⟩ | ⟨row, body, -, result⟩ | ⟨-, result⟩ := compareRevision_cases tx existing <;>
    rw [result] <;> simp

theorem compareRevision_holds (item : tx.item = none) (recorded : tx.recorded = none) :
    (compareRevision tx existing).Holds := by
  obtain ⟨-, result⟩ | ⟨row, body, -, result⟩ | ⟨-, result⟩ := compareRevision_cases tx existing <;>
    rw [result]
  · exact ⟨item, recorded⟩
  · exact recorded
  · exact recorded

end CompareRevision

section Steps

variable {server next : Server} {t : TxId} {tx : Tx}

theorem Locked.statement (locked : Locked server) (opened : server.txs t = some tx)
    (executed : Executed server t tx next) : Locked next := by
  have holds := locked.holds t tx opened
  unfold Tx.Holds at holds
  cases executed with
  | replay row phase found =>
      rw [phase] at holds
      obtain ⟨vault, item, recorded⟩ := holds
      exact
        { vaults := locked.vaults.close opened (by rw [vault]; rfl)
          items := locked.items.close opened (by rw [item]; rfl)
          outcomes := locked.outcomes.close opened (by rw [recorded]; rfl)
          holds := forall_close locked.holds
          keyed := locked.keyed
          itemKeyed := forall_close locked.itemKeyed }
  | noReplay phase =>
      rw [phase] at holds
      exact locked.moves opened ⟨rfl, rfl, rfl, rfl⟩ rfl rfl rfl holds
  | lock key phase =>
      rw [phase] at holds
      have moved : Locked (server.resume t { tx with phase := .findMutationOutcome }) :=
        locked.moves opened ⟨rfl, rfl, rfl, rfl⟩ rfl rfl rfl holds
      exact ⟨moved.vaults, moved.items, moved.outcomes, moved.holds, moved.keyed, moved.itemKeyed⟩
  | outcome row phase found =>
      exact locked.moves opened ⟨rfl, rfl, rfl, rfl⟩ rfl rfl rfl trivial
  | noOutcome phase =>
      rw [phase] at holds
      exact locked.moves opened ⟨rfl, rfl, rfl, rfl⟩ rfl rfl rfl holds
  | vaultExists phase =>
      rw [phase] at holds
      exact locked.moves opened ⟨rfl, rfl, rfl, rfl⟩ rfl rfl rfl holds.2
  | vaultInserted phase absent available =>
      rw [phase] at holds
      exact locked.takesVault opened available _ ⟨rfl, rfl, rfl, rfl⟩ rfl rfl rfl holds.2
  | owner phase owned =>
      rw [phase] at holds
      exact locked.moves opened ⟨rfl, rfl, rfl, rfl⟩ rfl rfl rfl holds
  | notOwner phase =>
      rw [phase] at holds
      exact locked.moves opened ⟨rfl, rfl, rfl, rfl⟩ rfl rfl rfl holds
  | noItem phase absent =>
      rw [phase] at holds
      exact locked.moves opened (sameRequest_compareRevision tx none) (compareRevision_vault tx none)
        ((compareRevision_item tx none holds.1).trans holds.1.symm)
        (compareRevision_recorded tx none) (compareRevision_holds tx none holds.1 holds.2)
  | item row phase found available =>
      rw [phase] at holds
      exact locked.takesItem opened available row (locked.keyed _ row found) _ _
        (sameRequest_compareRevision tx _) (compareRevision_vault tx _)
        (compareRevision_item tx _ holds.1) (compareRevision_recorded tx _)
        (compareRevision_holds tx _ holds.1 holds.2)
  | drawn phase =>
      rw [phase] at holds
      have moved : Locked (server.resume t
          { tx with phase := .upsertItem (server.vaultChangeSequence + 1) }) :=
        locked.moves opened ⟨rfl, rfl, rfl, rfl⟩ rfl rfl rfl holds
      exact ⟨moved.vaults, moved.items, moved.outcomes, moved.holds, moved.keyed, moved.itemKeyed⟩
  | inserted proposed phase available absent =>
      rw [phase] at holds
      exact locked.takesItem opened available _ rfl _ _ ⟨rfl, rfl, rfl, rfl⟩ rfl rfl rfl holds
  | updated proposed row phase available found =>
      rw [phase] at holds
      have key : (updatedRow tx row (server.vaultChangeSequence + 1)).key = tx.itemKey :=
        locked.keyed _ row found
      exact locked.takesItem opened available _ key _ _ ⟨rfl, rfl, rfl, rfl⟩ rfl rfl rfl holds
  | duplicate statusCode body row phase =>
      rw [phase] at holds
      exact locked.moves opened ⟨rfl, rfl, rfl, rfl⟩ rfl rfl rfl holds
  | recorded statusCode body phase available absent =>
      exact locked.takesOutcome opened available _ ⟨rfl, rfl, rfl, rfl⟩ rfl rfl rfl trivial
  | finished outcome phase =>
      split
      · exact locked.commit opened outcome
      · exact locked.rollback tx outcome

theorem postItem_correct {backend : Backend} {accountId vaultId : Id} {mutation : Mutation}
    {now : Timestamp} (checked : postItem backend accountId vaultId mutation now = some tx) :
    decodeB64 (tx.backend == .rust) tx.mutation.ciphertext = some tx.ciphertext ∧
      tx.phase = .findReplay ∧ tx.vault = none ∧ tx.item = none ∧ tx.recorded = none := by
  unfold postItem at checked
  split at checked
  · rw [Option.map_eq_some_iff] at checked
    obtain ⟨ciphertext, decodes, rfl⟩ := checked
    exact ⟨decodes, rfl, rfl, rfl, rfl⟩
  · cases checked

theorem locked_step {hashtext : String → Int} {action : Action} (locked : Locked server)
    (stepped : step hashtext server action = some next) : Locked next := by
  cases step_cases stepped with
  | accepted t backend accountId vaultId mutation now tx closed checked =>
      obtain ⟨-, phase, vault, item, recorded⟩ := postItem_correct checked
      refine locked.starts closed vault item recorded ?_
      unfold Tx.Holds
      rw [phase]
      exact ⟨vault, item, recorded⟩
  | refused t backend accountId vaultId mutation now =>
      exact ⟨locked.vaults, locked.items, locked.outcomes, locked.holds, locked.keyed,
        locked.itemKeyed⟩
  | statement t tx next opened executed => exact locked.statement opened executed
  | failed t tx opened => exact locked.rollback _ _

end Steps

end ZenPass.Sync
