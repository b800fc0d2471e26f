import ZenPass.Sync.Locks

set_option autoImplicit false

namespace ZenPass.Sync

open Wire ReadCommitted

def Tx.Draws (rows : Id × Id → Option ItemRow) (tx : Tx) (n : Nat) : Prop :=
  tx.phase = .upsertItem n ∨
    ∃ row, tx.item = some row ∧ row.sequence = n ∧ rows tx.itemKey ≠ some row

def Publishes (server next : Server) (action : Action) : Prop :=
  ∃ t tx outcome row, action = .statement t ∧ server.txs t = some tx ∧
    tx.phase = .finish outcome ∧ commits tx.backend outcome = true ∧ tx.item = some row ∧
    server.rows tx.itemKey ≠ some row ∧ next.txs t = none ∧
    next.rows = Function.update server.rows tx.itemKey (some row)

structure Advance (server next : Server) (action : Action) : Prop where
  counter : server.vaultChangeSequence ≤ next.vaultChangeSequence
  keys : server.itemKeys ⊆ next.itemKeys
  draws : ∀ t tx' n, next.txs t = some tx' → tx'.Draws next.rows n →
    (∃ tx, server.txs t = some tx ∧ tx.Draws server.rows n) ∨
      (action = .statement t ∧ n = server.vaultChangeSequence + 1 ∧ n ≤ next.vaultChangeSequence)
  listed : ∀ t tx' row, next.txs t = some tx' → tx'.item = some row →
    (∃ tx held, server.txs t = some tx ∧ tx.item = some held ∧ tx.itemKey = tx'.itemKey) ∨
      (∃ held, server.rows tx'.itemKey = some held) ∨ tx'.itemKey ∈ next.itemKeys
  rows : next.rows = server.rows ∨ Publishes server next action

section Advance

variable {server server' next : Server} {t : TxId} {tx tx' : Tx}

theorem Advance.resume (opened : server.txs t = some tx) (rows : server'.rows = server.rows)
    (txs : server'.txs = server.txs)
    (counter : server.vaultChangeSequence ≤ server'.vaultChangeSequence)
    (keys : server.itemKeys ⊆ server'.itemKeys)
    (draws : ∀ n, tx'.Draws server.rows n → tx.Draws server.rows n ∨
      (n = server.vaultChangeSequence + 1 ∧ n ≤ server'.vaultChangeSequence))
    (listed : ∀ row, tx'.item = some row →
      (∃ held, tx.item = some held ∧ tx.itemKey = tx'.itemKey) ∨
        (∃ held, server.rows tx'.itemKey = some held) ∨ tx'.itemKey ∈ server'.itemKeys) :
    Advance server (server'.resume t tx') (.statement t) where
  counter := counter
  keys := keys
  draws := by
    intro u other n open_ drawn
    change Function.update server'.txs t (some tx') u = some other at open_
    change other.Draws server'.rows n at drawn
    rw [rows] at drawn
    by_cases mine : u = t
    · subst mine
      simp only [Function.update_self, Option.some.injEq] at open_
      subst open_
      obtain before | fresh := draws n drawn
      · exact .inl ⟨tx, opened, before⟩
      · exact .inr ⟨rfl, fresh⟩
    · rw [Function.update_of_ne mine, txs] at open_
      exact .inl ⟨other, open_, drawn⟩
  listed := by
    intro u other row open_ item
    change Function.update server'.txs t (some tx') u = some other at open_
    by_cases mine : u = t
    · subst mine
      simp only [Function.update_self, Option.some.injEq] at open_
      subst open_
      obtain ⟨held, here, key⟩ | there := listed row item
      · exact .inl ⟨tx, held, opened, here, key⟩
      · exact .inr there
    · rw [Function.update_of_ne mine, txs] at open_
      exact .inl ⟨other, row, open_, item, rfl⟩
  rows := .inl rows

theorem Advance.moves (opened : server.txs t = some tx) (rows : server'.rows = server.rows)
    (txs : server'.txs = server.txs)
    (counter : server'.vaultChangeSequence = server.vaultChangeSequence)
    (keys : server'.itemKeys = server.itemKeys) (same : SameRequest tx tx')
    (item : tx'.item = tx.item) (phase : ∀ n, tx'.phase ≠ .upsertItem n) :
    Advance server (server'.resume t tx') (.statement t) := by
  refine .resume opened rows txs (by rw [counter]) (by rw [keys]; exact List.Subset.refl _) ?_ ?_
  · rintro n (writing | ⟨row, here, sequence, hidden⟩)
    · exact absurd writing (phase n)
    · exact .inl (.inr ⟨row, item ▸ here, sequence, same.itemKey ▸ hidden⟩)
  · intro row here
    exact .inl ⟨row, item ▸ here, same.itemKey.symm⟩

theorem Advance.ends {ended : Server} (rows : ended.rows = server.rows)
    (txs : ended.txs = server.txs)
    (counter : ended.vaultChangeSequence = server.vaultChangeSequence)
    (keys : ended.itemKeys = server.itemKeys) (outcome : ApplyOutcome) (action : Action) :
    Advance server ((ended.settle tx outcome).releaseLocks t) action where
  counter := counter.symm.le
  keys := by
    change server.itemKeys ⊆ ended.itemKeys
    rw [keys]
    exact List.Subset.refl _
  draws := by
    intro u other n open_ drawn
    change other.Draws ended.rows n at drawn
    change Function.update ended.txs t none u = some other at open_
    rw [rows] at drawn
    rw [txs] at open_
    by_cases mine : u = t
    · subst mine
      simp at open_
    · rw [Function.update_of_ne mine] at open_
      exact .inl ⟨other, open_, drawn⟩
  listed := by
    intro u other row open_ item
    change Function.update ended.txs t none u = some other at open_
    rw [txs] at open_
    by_cases mine : u = t
    · subst mine
      simp at open_
    · rw [Function.update_of_ne mine] at open_
      exact .inl ⟨other, row, open_, item, rfl⟩
  rows := .inl rows

theorem Locked.advance_commit (locked : Locked server) (opened : server.txs t = some tx)
    {outcome : ApplyOutcome} (phase : tx.phase = .finish outcome)
    (committing : commits tx.backend outcome = true) :
    Advance server (((server.commit t).settle tx outcome).releaseLocks t) (.statement t) := by
  have rows := locked.commit_rows opened
  cases item : tx.item with
  | none =>
      rw [item] at rows
      exact .ends rows rfl rfl rfl _ _
  | some row =>
      rw [item] at rows
      simp only at rows
      by_cases visible : server.rows tx.itemKey = some row
      · rw [← visible, Function.update_eq_self] at rows
        exact .ends rows rfl rfl rfl _ _
      · refine ⟨le_refl _, List.Subset.refl _, ?_, ?_, .inr ?_⟩
        · intro u other n open_ drawn
          change Function.update server.txs t none u = some other at open_
          change other.Draws (server.commit t).rows n at drawn
          rw [rows] at drawn
          by_cases mine : u = t
          · subst mine
            simp at open_
          · rw [Function.update_of_ne mine] at open_
            refine .inl ⟨other, open_, ?_⟩
            obtain writing | ⟨held, here, sequence, hidden⟩ := drawn
            · exact .inl writing
            · refine .inr ⟨held, here, sequence, ?_⟩
              rw [Function.update_of_ne] at hidden
              · exact hidden
              · intro same
                exact mine (locked.items.exclusive open_ opened same (by rw [here]; rfl)
                  (by rw [item]; rfl))
        · intro u other held open_ here
          change Function.update server.txs t none u = some other at open_
          by_cases mine : u = t
          · subst mine
            simp at open_
          · rw [Function.update_of_ne mine] at open_
            exact .inl ⟨other, held, open_, here, rfl⟩
        · refine ⟨t, tx, outcome, row, rfl, opened, phase, committing, item, visible, ?_, rows⟩
          change Function.update server.txs t none t = none
          simp

theorem Locked.advance_statement (locked : Locked server) (opened : server.txs t = some tx)
    (executed : Executed server t tx next) : Advance server next (.statement t) := by
  have holds := locked.holds t tx opened
  unfold Tx.Holds at holds
  have held (version : ItemRow) : (server.items.hold tx.itemKey t (some version) · |>.committed) =
      server.rows := funext fun _ => Table.hold_committed _ _ _ _ _
  cases executed with
  | replay row phase found => exact .ends rfl rfl rfl rfl _ _
  | noReplay phase => exact .moves opened rfl rfl rfl rfl ⟨rfl, rfl, rfl, rfl⟩ rfl (by simp)
  | lock key phase => exact .moves opened rfl rfl rfl rfl ⟨rfl, rfl, rfl, rfl⟩ rfl (by simp)
  | outcome row phase found => exact .moves opened rfl rfl rfl rfl ⟨rfl, rfl, rfl, rfl⟩ rfl (by simp)
  | noOutcome phase => exact .moves opened rfl rfl rfl rfl ⟨rfl, rfl, rfl, rfl⟩ rfl (by simp)
  | vaultExists phase => exact .moves opened rfl rfl rfl rfl ⟨rfl, rfl, rfl, rfl⟩ rfl (by simp)
  | vaultInserted phase absent available =>
      exact .moves opened rfl rfl rfl rfl ⟨rfl, rfl, rfl, rfl⟩ rfl (by simp)
  | owner phase owned => exact .moves opened rfl rfl rfl rfl ⟨rfl, rfl, rfl, rfl⟩ rfl (by simp)
  | notOwner phase => exact .moves opened rfl rfl rfl rfl ⟨rfl, rfl, rfl, rfl⟩ rfl (by simp)
  | noItem phase absent =>
      rw [phase] at holds
      exact .moves opened rfl rfl rfl rfl (sameRequest_compareRevision tx none)
        ((compareRevision_item tx none holds.1).trans holds.1.symm) (compareRevision_phase tx none)
  | item row phase found available =>
      rw [phase] at holds
      have key := (sameRequest_compareRevision tx (some row)).itemKey
      have item := compareRevision_item tx (some row) holds.1
      refine .resume opened (held row) rfl le_rfl (List.Subset.refl _) ?_ ?_
      · rintro n (writing | ⟨version, here, -, hidden⟩)
        · exact absurd writing (compareRevision_phase tx _ n)
        · rw [item, Option.some.injEq] at here
          rw [key, ← here] at hidden
          exact absurd found hidden
      · intro version here
        rw [key]
        exact .inr (.inl ⟨row, found⟩)
  | drawn phase =>
      refine .resume opened rfl rfl (Nat.le_succ _) (List.Subset.refl _) ?_ ?_
      · rintro n (writing | hidden)
        · cases writing
          exact .inr ⟨rfl, le_rfl⟩
        · exact .inl (.inr hidden)
      · intro row here
        exact .inl ⟨row, here, rfl⟩
  | inserted proposed phase available absent =>
      refine .resume opened (held _) rfl le_rfl
        (fun _ => List.mem_insert_of_mem) ?_ ?_
      · rintro n (writing | ⟨version, here, sequence, -⟩)
        · cases writing
        · cases here
          exact .inl (.inl (sequence ▸ phase))
      · intro version here
        exact .inr (.inr (List.mem_insert_self))
  | updated proposed row phase available found =>
      refine .resume opened (held _) rfl (Nat.le_succ _) (List.Subset.refl _) ?_ ?_
      · rintro n (writing | ⟨version, here, sequence, -⟩)
        · cases writing
        · cases here
          exact .inr ⟨sequence.symm, sequence.symm.le⟩
      · intro version here
        exact .inr (.inl ⟨row, found⟩)
  | duplicate statusCode body row phase =>
      exact .moves opened rfl rfl rfl rfl ⟨rfl, rfl, rfl, rfl⟩ rfl (by simp)
  | recorded statusCode body phase available absent =>
      exact .moves opened rfl rfl rfl rfl ⟨rfl, rfl, rfl, rfl⟩ rfl (by simp)
  | finished outcome phase =>
      split
      · exact locked.advance_commit opened phase ‹_›
      · exact .ends (server.rollback_rows t) rfl rfl rfl _ _

theorem Locked.advance (locked : Locked server) {hashtext : String → Int} {action : Action}
    (stepped : step hashtext server action = some next) : Advance server next action := by
  cases step_cases stepped with
  | accepted t backend accountId vaultId mutation now tx closed checked =>
      obtain ⟨-, phase, -, item, -⟩ := postItem_correct checked
      refine ⟨le_rfl, List.Subset.refl _, ?_, ?_, .inl rfl⟩
      · refine fun u other n => ?_
        by_cases mine : u = t
        · subst mine
          rintro open_ (writing | ⟨row, here, -⟩) <;>
            (simp only [Server.resume, Function.update_self, Option.some.injEq] at open_; subst open_)
          · rw [phase] at writing
            cases writing
          · rw [item] at here
            cases here
        · intro open_ drawn
          simp only [Server.resume, Function.update_of_ne mine] at open_
          exact .inl ⟨other, open_, drawn⟩
      · intro u other row open_ here
        by_cases mine : u = t
        · subst mine
          simp only [Server.resume, Function.update_self, Option.some.injEq] at open_
          subst open_
          rw [item] at here
          cases here
        · simp only [Server.resume, Function.update_of_ne mine] at open_
          exact .inl ⟨other, row, open_, here, rfl⟩
  | refused t backend accountId vaultId mutation now =>
      exact ⟨le_rfl, List.Subset.refl _, fun t tx n opened drawn => .inl ⟨tx, opened, drawn⟩,
        fun t tx row opened item => .inl ⟨tx, row, opened, item, rfl⟩, .inl rfl⟩
  | statement t tx next opened executed => exact locked.advance_statement opened executed
  | failed t tx opened =>
      exact .ends (server.rollback_rows t) rfl rfl rfl _ _

end Advance

structure Sequenced (server : Server) : Prop where
  positive : ∀ key row, server.rows key = some row → 0 < row.sequence
  bounded : ∀ key row, server.rows key = some row → row.sequence ≤ server.vaultChangeSequence
  distinct : ∀ key key' row row', server.rows key = some row → server.rows key' = some row' →
    row.sequence = row'.sequence → key = key'
  drawn : ∀ t tx n, server.txs t = some tx → tx.Draws server.rows n →
    0 < n ∧ n ≤ server.vaultChangeSequence ∧ ∀ key row, server.rows key = some row → row.sequence ≠ n
  exclusive : ∀ t t' tx tx' n, server.txs t = some tx → server.txs t' = some tx' →
    tx.Draws server.rows n → tx'.Draws server.rows n → t = t'
  listed : ∀ key row, server.rows key = some row → key ∈ server.itemKeys
  heldListed : ∀ t tx row, server.txs t = some tx → tx.item = some row →
    tx.itemKey ∈ server.itemKeys

theorem sequenced_initial : Sequenced Server.initial := by
  constructor <;> simp [Server.initial, Server.rows]

theorem Sequenced.advance {server next : Server} {action : Action} (sequenced : Sequenced server)
    (advance : Advance server next action) : Sequenced next := by
  -- The rows after the step: the ones before, and at most one with a number drawn before it.
  have origin : ∀ key row, next.rows key = some row → server.rows key = some row ∨
      ∃ t tx, server.txs t = some tx ∧ tx.Draws server.rows row.sequence ∧ tx.itemKey = key ∧
        next.txs t = none ∧ tx.item = some row := by
    intro key row found
    obtain same | ⟨t, tx, outcome, held, -, opened, -, -, item, hidden, closed, rows⟩ := advance.rows
    · exact .inl (same ▸ found)
    · rw [rows] at found
      by_cases here : key = tx.itemKey
      · subst here
        simp only [Function.update_self, Option.some.injEq] at found
        subst found
        exact .inr ⟨t, tx, opened, .inr ⟨held, item, rfl, hidden⟩, rfl, closed, item⟩
      · rw [Function.update_of_ne here] at found
        exact .inl found
  constructor
  · intro key row found
    obtain before | ⟨t, tx, opened, drawn, -⟩ := origin key row found
    · exact sequenced.positive key row before
    · exact (sequenced.drawn t tx _ opened drawn).1
  · intro key row found
    obtain before | ⟨t, tx, opened, drawn, -⟩ := origin key row found
    · exact (sequenced.bounded key row before).trans advance.counter
    · exact (sequenced.drawn t tx _ opened drawn).2.1.trans advance.counter
  · intro key key' row row' found found' same
    obtain before | ⟨t, tx, opened, drawn, here, -⟩ := origin key row found <;>
      obtain before' | ⟨t', tx', opened', drawn', here', -⟩ := origin key' row' found'
    · exact sequenced.distinct key key' row row' before before' same
    · exact absurd same ((sequenced.drawn t' tx' _ opened' drawn').2.2 key row before)
    · exact absurd same.symm ((sequenced.drawn t tx _ opened drawn).2.2 key' row' before')
    · have owner := sequenced.exclusive t t' tx tx' _ opened opened' drawn (same ▸ drawn')
      subst owner
      rw [opened, Option.some.injEq] at opened'
      rw [← here, ← here', opened']
  · intro t tx n opened drawn
    obtain ⟨tx₀, opened₀, before⟩ | ⟨-, fresh, bound⟩ := advance.draws t tx n opened drawn
    · obtain ⟨pos, bound, free⟩ := sequenced.drawn t tx₀ n opened₀ before
      refine ⟨pos, bound.trans advance.counter, fun key row found same => ?_⟩
      obtain visible | ⟨t', tx', opened', drawn', -, closed, -⟩ := origin key row found
      · exact free key row visible same
      · have owner := sequenced.exclusive t t' tx₀ tx' n opened₀ opened' before (same ▸ drawn')
        rw [owner, closed] at opened
        cases opened
    · refine ⟨by omega, bound, fun key row found same => ?_⟩
      obtain visible | ⟨t', tx', opened', drawn', -⟩ := origin key row found
      · have := sequenced.bounded key row visible
        omega
      · have := (sequenced.drawn t' tx' _ opened' drawn').2.1
        omega
  · intro t t' tx tx' n opened opened' drawn drawn'
    obtain ⟨tx₀, opened₀, before⟩ | ⟨mine, fresh, -⟩ := advance.draws t tx n opened drawn <;>
      obtain ⟨tx₀', opened₀', before'⟩ | ⟨mine', fresh', -⟩ := advance.draws t' tx' n opened' drawn'
    · exact sequenced.exclusive t t' tx₀ tx₀' n opened₀ opened₀' before before'
    · have := (sequenced.drawn t tx₀ n opened₀ before).2.1
      omega
    · have := (sequenced.drawn t' tx₀' n opened₀' before').2.1
      omega
    · rw [mine, Action.statement.injEq] at mine'
      exact mine'
  · intro key row found
    obtain before | ⟨t, tx, opened, -, here, -, item⟩ := origin key row found
    · exact advance.keys (sequenced.listed key row before)
    · exact here ▸ advance.keys (sequenced.heldListed t tx row opened item)
  · intro t tx row opened item
    obtain ⟨tx₀, held, opened₀, item₀, key⟩ | ⟨held, visible⟩ | there :=
      advance.listed t tx row opened item
    · exact key ▸ advance.keys (sequenced.heldListed t tx₀ held opened₀ item₀)
    · exact advance.keys (sequenced.listed _ held visible)
    · exact there

end ZenPass.Sync
