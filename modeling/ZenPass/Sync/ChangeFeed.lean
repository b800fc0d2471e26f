import ZenPass.Lib.Page
import ZenPass.Sync.Sequence

set_option autoImplicit false

-- Readers page through `GET /vaults/{vaultId}/changes` while mutation transactions run. A request
-- reads the owner of the vault in one statement and the page in another.

namespace ZenPass.Sync

open Wire ReadCommitted Transition

def Server.tableRows (server : Server) : List ItemRow := server.itemKeys.filterMap server.rows

def listChanges (server : Server) (vaultId : Id) (afterSequence limit : Nat) : List ItemRow :=
  Paging.page ItemRow.sequence (server.tableRows.filter fun row => row.vaultId == vaultId)
    afterSequence limit

def vaultOwnedBy (server : Server) (accountId vaultId : Id) : Bool :=
  (server.vaults vaultId).committed == some accountId

def pageLimit : Option Int → Option Nat
  | none => some 100
  | some limit => if 1 ≤ limit ∧ limit ≤ 200 then some limit.toNat else none

/-- A client that passes back the cursor it was last given. A cursor is the sequence it encodes;
`request` is the limit of a request whose page has not been read yet. -/
structure Reader where
  accountId : Id
  vaultId : Id
  cursor : Option Nat := none
  request : Option Nat := none
  served : List ItemRow := []
deriving DecidableEq, Repr

def Reader.afterSequence (reader : Reader) : Nat := reader.cursor.getD 0

def nextCursor (reader : Reader) (rows : List ItemRow) : Nat :=
  rows.getLast?.elim reader.afterSequence ItemRow.sequence

def Reader.receive (reader : Reader) (rows : List ItemRow) : Reader :=
  { reader with
    cursor := some (nextCursor reader rows)
    request := none
    served := reader.served ++ rows }

structure Feed where
  server : Server
  readers : List Reader

def Feed.initial : Feed where
  server := Server.initial
  readers := []

inductive FeedAction where
  | server (action : Action)
  | connect (accountId vaultId : Id)
  | getChanges (r : Nat) (limit : Option Int)
  | listChanges (r : Nat)
  -- The response, whatever it is, does not reach the client.
  | lose (r : Nat)

variable (hashtext : String → Int)

def feedStep (feed : Feed) : FeedAction → Option Feed
  | .server action => (step hashtext feed.server action).map fun server => { feed with server }
  | .connect accountId vaultId =>
      some { feed with readers := feed.readers ++ [{ accountId, vaultId }] }
  | .getChanges r limit =>
      (feed.readers[r]?).bind fun reader =>
        if reader.request.isSome then none
        else
          match pageLimit limit with
          | some limit =>
              if isValidId reader.vaultId && vaultOwnedBy feed.server reader.accountId reader.vaultId then
                some { feed with readers := feed.readers.set r { reader with request := some limit } }
              else some feed
          | none => some feed
  | .listChanges r =>
      (feed.readers[r]?).bind fun reader =>
        reader.request.map fun limit =>
          let rows := listChanges feed.server reader.vaultId reader.afterSequence limit
          { feed with readers := feed.readers.set r (reader.receive rows) }
  | .lose r =>
      (feed.readers[r]?).map fun reader =>
        { feed with readers := feed.readers.set r { reader with request := none } }

/-- A commit makes a row visible at a sequence that some reader of the vault has already passed. -/
def commitsBehindCursor (feed : Feed) : FeedAction → Bool
  | .server (.statement t) =>
      match feed.server.txs t with
      | some tx =>
          match tx.phase, tx.item with
          | .finish outcome, some row =>
              commits tx.backend outcome && decide (feed.server.rows tx.itemKey ≠ some row) &&
                feed.readers.any fun reader =>
                  reader.vaultId == row.vaultId && decide (row.sequence ≤ reader.afterSequence)
          | _, _ => false
      | none => false
  | _ => false

/-- Every row of the vault up to the cursor was in a page; after an empty page, every row. -/
structure CompleteFeed (feed : Feed) : Prop where
  contained : ∀ reader ∈ feed.readers, ∀ key row, feed.server.rows key = some row →
    row.vaultId = reader.vaultId → row.sequence ≤ reader.afterSequence → row ∈ reader.served
  caughtUp : ∀ reader ∈ feed.readers, ∀ limit, 0 < limit →
    listChanges feed.server reader.vaultId reader.afterSequence limit = [] →
      ∀ key row, feed.server.rows key = some row → row.vaultId = reader.vaultId →
        row ∈ reader.served

structure FeedInvariant (feed : Feed) : Prop where
  locked : Locked feed.server
  sequenced : Sequenced feed.server
  bounded : ∀ reader ∈ feed.readers, ∀ row ∈ reader.served,
    row.sequence ≤ feed.server.vaultChangeSequence
  settled : ∀ reader ∈ feed.readers, ∀ row ∈ reader.served, ∀ t tx,
    feed.server.txs t = some tx → ¬ tx.Draws feed.server.rows row.sequence

theorem feedInvariant_initial : FeedInvariant Feed.initial where
  locked := locked_initial
  sequenced := sequenced_initial
  bounded := by simp [Feed.initial]
  settled := by simp [Feed.initial]

theorem completeFeed_initial : CompleteFeed Feed.initial := by
  constructor <;> simp [Feed.initial]

section Pages

variable {server : Server} {vaultId : Id} {afterSequence limit : Nat}

theorem mem_vaultRows (sequenced : Sequenced server) (row : ItemRow) :
    row ∈ server.tableRows.filter (fun row => row.vaultId == vaultId) ↔
      (∃ key, server.rows key = some row) ∧ row.vaultId = vaultId := by
  rw [List.mem_filter, beq_iff_eq, Server.tableRows, List.mem_filterMap]
  constructor
  · rintro ⟨⟨key, -, found⟩, here⟩
    exact ⟨⟨key, found⟩, here⟩
  · rintro ⟨⟨key, found⟩, here⟩
    exact ⟨⟨key, sequenced.listed key row found, found⟩, here⟩

theorem mem_listChanges {row : ItemRow}
    (member : row ∈ listChanges server vaultId afterSequence limit) :
    (∃ key, server.rows key = some row) ∧ row.vaultId = vaultId ∧ afterSequence < row.sequence := by
  obtain ⟨listed, above⟩ := Paging.mem_of_mem_page member
  rw [List.mem_filter, beq_iff_eq, Server.tableRows, List.mem_filterMap] at listed
  obtain ⟨⟨key, -, found⟩, here⟩ := listed
  exact ⟨⟨key, found⟩, here, above⟩

theorem sequence_injective (sequenced : Sequenced server) :
    ∀ a ∈ server.tableRows.filter (fun row => row.vaultId == vaultId),
      ∀ b ∈ server.tableRows.filter (fun row => row.vaultId == vaultId),
        a.sequence = b.sequence → a = b := by
  intro a ha b hb same
  obtain ⟨⟨key, found⟩, -⟩ := (mem_vaultRows sequenced a).mp ha
  obtain ⟨⟨key', found'⟩, -⟩ := (mem_vaultRows sequenced b).mp hb
  have key_eq := sequenced.distinct key key' a b found found' same
  rw [← key_eq, found, Option.some.injEq] at found'
  exact found'

theorem mem_listChanges_of_le (sequenced : Sequenced server) {key : Id × Id} {row last : ItemRow}
    (final : (listChanges server vaultId afterSequence limit).getLast? = some last)
    (found : server.rows key = some row) (here : row.vaultId = vaultId)
    (above : afterSequence < row.sequence) (bound : row.sequence ≤ last.sequence) :
    row ∈ listChanges server vaultId afterSequence limit :=
  Paging.mem_page_of_le_last (sequence_injective sequenced) final
    ((mem_vaultRows sequenced row).mpr ⟨⟨key, found⟩, here⟩) above bound

theorem sequence_le_of_listChanges_nil (sequenced : Sequenced server) (positive : 0 < limit)
    (empty : listChanges server vaultId afterSequence limit = []) {key : Id × Id} {row : ItemRow}
    (found : server.rows key = some row) (here : row.vaultId = vaultId) :
    row.sequence ≤ afterSequence :=
  (Paging.page_eq_nil positive).mp empty row ((mem_vaultRows sequenced row).mpr ⟨⟨key, found⟩, here⟩)

end Pages

theorem CompleteFeed.of_contained {feed : Feed} (sequenced : Sequenced feed.server)
    (contained : ∀ reader ∈ feed.readers, ∀ key row, feed.server.rows key = some row →
      row.vaultId = reader.vaultId → row.sequence ≤ reader.afterSequence → row ∈ reader.served) :
    CompleteFeed feed where
  contained := contained
  caughtUp := fun reader member _ positive empty key row found here =>
    contained reader member key row found here
      (sequence_le_of_listChanges_nil sequenced positive empty found here)

section Steps

variable {hashtext} {feed next : Feed} {action : FeedAction}

theorem forall_set {property : Reader → Prop} {readers : List Reader} {r : Nat} {reader : Reader}
    (each : ∀ other ∈ readers, property other) (mine : property reader) :
    ∀ other ∈ readers.set r reader, property other := by
  intro other member
  obtain before | rfl := List.mem_or_eq_of_mem_set member
  · exact each other before
  · exact mine

theorem FeedInvariant.serverStep (invariant : FeedInvariant feed) {server : Server}
    {act : Action} (stepped : step hashtext feed.server act = some server) :
    FeedInvariant { feed with server } := by
  have advance := invariant.locked.advance stepped
  refine ⟨locked_step invariant.locked stepped, invariant.sequenced.advance advance, ?_, ?_⟩
  · intro reader member row served
    exact (invariant.bounded reader member row served).trans advance.counter
  · intro reader member row served t tx opened drawn
    obtain ⟨tx₀, opened₀, before⟩ | ⟨-, fresh, -⟩ := advance.draws t tx _ opened drawn
    · exact invariant.settled reader member row served t tx₀ opened₀ before
    · have := invariant.bounded reader member row served
      omega

theorem feedInvariant_step (feed : Feed) (action : FeedAction) (next : Feed)
    (invariant : FeedInvariant feed) (stepped : feedStep hashtext feed action = some next) :
    FeedInvariant next := by
  obtain ⟨locked, sequenced, bounded, settled⟩ := invariant
  cases action with
  | server act =>
      rw [feedStep, Option.map_eq_some_iff] at stepped
      obtain ⟨server, stepped, rfl⟩ := stepped
      exact FeedInvariant.serverStep ⟨locked, sequenced, bounded, settled⟩ stepped
  | connect accountId vaultId =>
      cases stepped
      refine ⟨locked, sequenced, ?_, ?_⟩ <;> intro reader member <;>
        rw [List.mem_append, List.mem_singleton] at member
      · obtain member | rfl := member
        · exact bounded reader member
        · simp
      · obtain member | rfl := member
        · exact settled reader member
        · simp
  | getChanges r limit =>
      rw [feedStep, Option.bind_eq_some_iff] at stepped
      obtain ⟨reader, there, stepped⟩ := stepped
      have member := List.mem_of_getElem? there
      split at stepped
      · cases stepped
      · split at stepped
        · split at stepped <;> cases stepped
          · exact ⟨locked, sequenced, forall_set bounded (bounded reader member),
              forall_set settled (settled reader member)⟩
          · exact ⟨locked, sequenced, bounded, settled⟩
        · cases stepped
          exact ⟨locked, sequenced, bounded, settled⟩
  | listChanges r =>
      rw [feedStep, Option.bind_eq_some_iff] at stepped
      obtain ⟨reader, there, stepped⟩ := stepped
      rw [Option.map_eq_some_iff] at stepped
      obtain ⟨limit, -, rfl⟩ := stepped
      have member := List.mem_of_getElem? there
      refine ⟨locked, sequenced, forall_set bounded ?_, forall_set settled ?_⟩
      · intro row served
        obtain before | page := List.mem_append.mp served
        · exact bounded reader member row before
        · obtain ⟨⟨key, found⟩, -⟩ := mem_listChanges page
          exact sequenced.bounded key row found
      · intro row served t tx opened drawn
        obtain before | page := List.mem_append.mp served
        · exact settled reader member row before t tx opened drawn
        · obtain ⟨⟨key, found⟩, -⟩ := mem_listChanges page
          exact (sequenced.drawn t tx _ opened drawn).2.2 key row found rfl
  | lose r =>
      rw [feedStep, Option.map_eq_some_iff] at stepped
      obtain ⟨reader, there, rfl⟩ := stepped
      have member := List.mem_of_getElem? there
      exact ⟨locked, sequenced, forall_set bounded (bounded reader member),
        forall_set settled (settled reader member)⟩

theorem CompleteFeed.receive (complete : CompleteFeed feed) (sequenced : Sequenced feed.server)
    {reader : Reader} (member : reader ∈ feed.readers) (limit : Nat) :
    ∀ key row, feed.server.rows key = some row → row.vaultId = reader.vaultId →
      row.sequence ≤ (reader.receive
        (listChanges feed.server reader.vaultId reader.afterSequence limit)).afterSequence →
      row ∈ (reader.receive
        (listChanges feed.server reader.vaultId reader.afterSequence limit)).served := by
  intro key row found here bound
  change row.sequence ≤ nextCursor reader _ at bound
  refine List.mem_append.mpr ?_
  by_cases old : row.sequence ≤ reader.afterSequence
  · exact .inl (complete.contained reader member key row found here old)
  · right
    rw [not_le] at old
    cases final : (listChanges feed.server reader.vaultId reader.afterSequence limit).getLast? with
    | none =>
        rw [nextCursor, final] at bound
        exact absurd bound (not_le.mpr old)
    | some last =>
        rw [nextCursor, final] at bound
        exact mem_listChanges_of_le sequenced final found here old bound

theorem commit_published {server next : Server} (locked : Locked server) {t : TxId} {tx : Tx}
    {outcome : ApplyOutcome} {row : ItemRow} (opened : server.txs t = some tx)
    (phase : tx.phase = .finish outcome) (committing : commits tx.backend outcome = true)
    (item : tx.item = some row) (stepped : step hashtext server (.statement t) = some next) :
    next.rows tx.itemKey = some row := by
  simp only [step, opened, Option.bind_some, statement, phase, committing, if_true,
    Option.some.injEq] at stepped
  subst stepped
  have rows := locked.commit_rows opened
  rw [item] at rows
  exact (congrFun rows tx.itemKey).trans (Function.update_self _ _ _)

theorem commitsBehindCursor_of_same {server : Server} {act : Action} (locked : Locked feed.server)
    (stepped : step hashtext feed.server act = some server)
    (same : server.rows = feed.server.rows) : commitsBehindCursor feed (.server act) = false := by
  unfold commitsBehindCursor
  split
  · rename_i t heading
    cases heading
    split
    · rename_i tx opened
      split
      · rename_i outcome row phase item
        cases committing : commits tx.backend outcome with
        | false => simp
        | true =>
            have visible := commit_published locked opened phase committing item stepped
            rw [same] at visible
            simp [visible]
      · rfl
    · rfl
  · rfl

theorem commitsBehindCursor_iff {t : TxId} {tx : Tx}
    {outcome : ApplyOutcome} {row : ItemRow} (opened : feed.server.txs t = some tx)
    (phase : tx.phase = .finish outcome) (committing : commits tx.backend outcome = true)
    (item : tx.item = some row) (hidden : feed.server.rows tx.itemKey ≠ some row) :
    commitsBehindCursor feed (.server (.statement t)) = true ↔
      ∃ reader ∈ feed.readers, reader.vaultId = row.vaultId ∧ row.sequence ≤ reader.afterSequence := by
  simp [commitsBehindCursor, opened, phase, committing, item, hidden]

theorem completeFeed_step (feed : Feed) (action : FeedAction) (next : Feed)
    (invariant : FeedInvariant feed) (complete : CompleteFeed feed)
    (stepped : feedStep hashtext feed action = some next) :
    CompleteFeed next ↔ commitsBehindCursor feed action = false := by
  have sequenced := (feedInvariant_step feed action next invariant stepped).sequenced
  cases action with
  | server act =>
      rw [feedStep, Option.map_eq_some_iff] at stepped
      obtain ⟨server, stepped, rfl⟩ := stepped
      obtain same | ⟨t, tx, outcome, row, rfl, opened, phase, committing, item, hidden, -, rows⟩ :=
        (invariant.locked.advance stepped).rows
      · -- Nothing became visible.
        have kept : CompleteFeed { feed with server } := by
          refine .of_contained sequenced ?_
          rw [same]
          exact complete.contained
        simp only [kept, commitsBehindCursor_of_same invariant.locked stepped same]
      · rw [← Bool.not_eq_true, commitsBehindCursor_iff opened phase committing item hidden]
        have drawn : tx.Draws feed.server.rows row.sequence := .inr ⟨row, item, rfl, hidden⟩
        constructor
        · rintro kept ⟨reader, member, vault, passed⟩
          have visible : server.rows tx.itemKey = some row := by rw [rows, Function.update_self]
          have served := kept.contained reader member tx.itemKey row visible vault.symm passed
          exact invariant.settled reader member row served t tx opened drawn
        · intro ahead
          refine .of_contained sequenced ?_
          intro reader member key other found here bound
          rw [rows] at found
          by_cases published : key = tx.itemKey
          · subst published
            simp only [Function.update_self, Option.some.injEq] at found
            subst found
            exact absurd ⟨reader, member, here.symm, bound⟩ ahead
          · rw [Function.update_of_ne published] at found
            exact complete.contained reader member key other found here bound
  | connect accountId vaultId =>
      cases stepped
      simp only [commitsBehindCursor, iff_true]
      refine .of_contained sequenced ?_
      intro reader member key row found here bound
      rw [List.mem_append, List.mem_singleton] at member
      obtain member | rfl := member
      · exact complete.contained reader member key row found here bound
      · exact absurd bound (not_le.mpr (invariant.sequenced.positive key row found))
  | getChanges r limit =>
      simp only [commitsBehindCursor, iff_true]
      rw [feedStep, Option.bind_eq_some_iff] at stepped
      obtain ⟨reader, there, stepped⟩ := stepped
      have member := List.mem_of_getElem? there
      split at stepped
      · cases stepped
      · split at stepped
        · split at stepped <;> cases stepped
          · exact .of_contained sequenced
              (forall_set complete.contained (complete.contained reader member))
          · exact complete
        · cases stepped
          exact complete
  | listChanges r =>
      simp only [commitsBehindCursor, iff_true]
      rw [feedStep, Option.bind_eq_some_iff] at stepped
      obtain ⟨reader, there, stepped⟩ := stepped
      rw [Option.map_eq_some_iff] at stepped
      obtain ⟨limit, -, rfl⟩ := stepped
      have member := List.mem_of_getElem? there
      exact .of_contained sequenced (forall_set complete.contained
        (complete.receive invariant.sequenced member limit))
  | lose r =>
      simp only [commitsBehindCursor, iff_true]
      rw [feedStep, Option.map_eq_some_iff] at stepped
      obtain ⟨reader, there, rfl⟩ := stepped
      have member := List.mem_of_getElem? there
      exact .of_contained sequenced (forall_set complete.contained (complete.contained reader member))

end Steps

/-- The feed is complete in every state of a run exactly when no transaction of the run commits
behind a cursor that was already served. -/
theorem change_feed_complete (actions : List FeedAction) :
    Always (feedStep hashtext) CompleteFeed Feed.initial actions ↔
      Every (feedStep hashtext) (fun feed action => commitsBehindCursor feed action = false)
        Feed.initial actions :=
  always_iff_every FeedInvariant (fun feed action next => feedInvariant_step feed action next)
    (fun feed action next => completeFeed_step feed action next)
    feedInvariant_initial completeFeed_initial

def lowerSequenceCommitsLast : List FeedAction :=
  .server (.postItem 0 .node "account" "vault" (sampleMutation "m0" "other" "b64:AAAA" 0) 1000) ::
    List.replicate 10 (.server (.statement 0)) ++
  .server (.postItem 1 .node "account" "vault" (sampleMutation "m1" "first" "b64:AQAA" 0) 2000) ::
    .server (.postItem 2 .rust "account" "vault" (sampleMutation "m22" "second" "b64:AgAA" 0) 3000) ::
    (List.replicate 7 (.server (.statement 1)) ++ List.replicate 10 (.server (.statement 2)) ++
      [.connect "account" "vault", .getChanges 0 none, .listChanges 0] ++
      List.replicate 3 (.server (.statement 1)) ++ [.getChanges 0 none, .listChanges 0])

theorem lower_sequence_commit_is_missed :
    ¬ ∀ (hashtext : String → Int) (actions : List FeedAction) (final : Feed),
      run (feedStep hashtext) Feed.initial actions = some final → CompleteFeed final := by
  intro always
  have ran : run (feedStep lengthHash) Feed.initial lowerSequenceCommitsLast = some _ :=
    run_reached (by decide +kernel)
  have complete := always lengthHash lowerSequenceCommitsLast _ ran
  have missed : ∃ reader ∈ (reached (feedStep lengthHash) Feed.initial
      lowerSequenceCommitsLast).readers, ∃ row ∈ (reached (feedStep lengthHash) Feed.initial
      lowerSequenceCommitsLast).server.tableRows, row.vaultId = reader.vaultId ∧
        row.sequence ≤ reader.afterSequence ∧ row ∉ reader.served := by
    decide +kernel
  obtain ⟨reader, member, row, listed, here, passed, unserved⟩ := missed
  obtain ⟨key, -, found⟩ := List.mem_filterMap.mp listed
  exact unserved (complete.contained reader member key row found here passed)

end ZenPass.Sync
