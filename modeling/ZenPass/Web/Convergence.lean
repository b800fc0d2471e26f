import ZenPass.Lib.Transition
import ZenPass.Sdk.SyncEngine
import ZenPass.Sync.Sequential
import ZenPass.Web.VaultSession

set_option autoImplicit false

-- The client's operations run one after the other against the sync server. `repo` is the client's
-- repository, `openPayload` the crypto worker, `timeText` how a backend writes a timestamp.

namespace ZenPass.Web

open Sdk Transition Wire

inductive Body where
  | record (item : ItemRecord)
  | conflict (mutationId : Id) (current : ItemRecord) (attempted : Mutation)
  | problem
deriving DecidableEq, Repr

section Bodies

variable {σ : Type}

def bodyRepository (repo : LocalRepository σ ItemRecord RecordConflictError) :
    LocalRepository σ Body (Option RecordConflictError) where
  getItem state vaultId itemId := (repo.getItem state vaultId itemId).map .record
  putItem state
    | .record item => (repo.putItem state item).mapError some
    | _ => .error none
  listItems state vaultId := (repo.listItems state vaultId).map .record
  getCursor := repo.getCursor
  setCursor := repo.setCursor
  enqueueMutation := repo.enqueueMutation
  getQueuedMutation := repo.getQueuedMutation
  listQueuedMutations := repo.listQueuedMutations
  dequeueMutation := repo.dequeueMutation

theorem mapError_isOk {α ε ε' : Type} (f : ε → ε') (result : Except ε α) :
    (result.mapError f).isOk = result.isOk := by
  cases result <;> rfl

theorem bodyRepository_lawful {repo : LocalRepository σ ItemRecord RecordConflictError}
    (lawful : repo.Lawful) : (bodyRepository repo).Lawful where
  getQueued_enqueue := lawful.getQueued_enqueue
  getQueued_dequeue := lawful.getQueued_dequeue
  getQueued_putItem := by
    intro state item next put
    cases item with
    | record record =>
        change (repo.putItem state record).mapError some = .ok next at put
        cases stored : repo.putItem state record with
        | error error =>
            rw [stored] at put
            cases put
        | ok after =>
            rw [stored] at put
            cases put
            exact lawful.getQueued_putItem state record next stored
    | conflict => cases put
    | problem => cases put
  putItem_enqueue := by
    intro state entry item
    cases item with
    | record record =>
        change ((repo.putItem _ record).mapError some).isOk = ((repo.putItem state record).mapError some).isOk
        rw [mapError_isOk, mapError_isOk]
        exact lawful.putItem_enqueue state entry record
    | conflict => rfl
    | problem => rfl
  getQueued_setCursor := lawful.getQueued_setCursor
  mem_listQueued := lawful.mem_listQueued

end Bodies

/-- What the network does to one request. A gateway in between may answer in the server's place,
but not with a status that the engine takes for the server's verdict. -/
inductive Delivery where
  | answered (now : Sync.Timestamp)
  | answerLost (now : Sync.Timestamp)
  | answerCut (now : Sync.Timestamp)
  | lost
  | refused (status : Nat) (text : BodyText Body) (honest : status ≠ 201 ∧ status ≠ 409)

/-- The engine can tell what became of the request. -/
def Delivery.readable : Delivery → Bool
  | .answerCut _ => false
  | .refused status text _ => status == 204 || (match text with
      | .unreadable | .notJson => false
      | .empty | .json _ => true)
  | _ => true

structure Account where
  backend : Sync.Backend
  accountId : Id
  vaultId : Id

section Client

variable {σ D : Type} (repo : LocalRepository σ ItemRecord RecordConflictError)
  (openPayload : Nat → AccountBundle → Id → String → Option D) (timeText : Sync.WireTime → String)
  (account : Account) (backoff : BackoffOptions)

def Account.bundle (account : Account) : AccountBundle := ⟨account.accountId, account.vaultId⟩

def recordText (timeText : Sync.WireTime → String) (item : Sync.ItemRecord) : ItemRecord where
  itemId := item.itemId
  vaultId := item.vaultId
  ciphertext := item.ciphertext
  envelopeVersion := item.envelopeVersion
  revision := item.revision
  deleted := item.deleted
  createdAt := timeText item.createdAt
  updatedAt := timeText item.updatedAt

def bodyOf : Sync.ResponseBody → Body
  | .record item => .record (recordText timeText item)
  | .conflict mutationId current attempted =>
      .conflict mutationId (recordText timeText current) attempted

def replyOf : Sync.ApplyOutcome → Reply Body
  | .response statusCode body => .response statusCode (.json (bodyOf timeText body))
  | outcome => .response outcome.statusCode (.json .problem)

/-- Deliveries are used up in the order of the requests; past their end the network is down. -/
structure World where
  store : Sync.Store
  deliveries : List Delivery

def serve (store : Sync.Store) (mutation : Mutation) (now : Sync.Timestamp) :
    Sync.Store × Sync.ApplyOutcome :=
  Sync.postMutation store account.backend account.accountId mutation.vaultId mutation now

def exchange (world : World) (mutation : Mutation) : World × Reply Body :=
  match world.deliveries with
  | [] => (world, .networkFailure)
  | delivery :: later =>
      match delivery with
      | .answered now =>
          let (store, outcome) := serve account world.store mutation now
          (⟨store, later⟩, replyOf timeText outcome)
      | .answerLost now => (⟨(serve account world.store mutation now).1, later⟩, .networkFailure)
      | .answerCut now =>
          let (store, outcome) := serve account world.store mutation now
          (⟨store, later⟩, .response outcome.statusCode .unreadable)
      | .lost => (⟨world.store, later⟩, .networkFailure)
      | .refused status text _ => (⟨world.store, later⟩, .response status text)

structure Replica (σ D : Type) where
  state : σ
  vault : VaultSession D
  store : Sync.Store
  made : List Mutation

inductive ClientAction (D : Type) where
  | saveItem (mutationId itemId : Id) (data : D) (envelope : Bytes)
  | deleteItem (mutationId itemId : Id) (envelope : Bytes)
  | refreshFromRepository
  | pushAll (now : Nat) (accessToken : Option String) (deliveries : List Delivery)
  | pull (maxPages : Nat) (replies : List (Option (ChangePage ItemRecord)))

def loadAllItemsIntoMemory (state : σ) (vault : VaultSession D) (session : Nat)
    (bundle : AccountBundle) : VaultSession D :=
  let confirmed := (repo.listItems state bundle.vaultId).foldl
    (fun vault record =>
      vault.loadRecord record (openPayload session bundle record.itemId record.ciphertext)) vault
  (repo.listQueuedMutations state).foldl
    (fun vault entry =>
      vault.loadQueued bundle entry
        (openPayload session bundle entry.mutation.itemId entry.mutation.ciphertext)) confirmed

def Replica.edit (replica : Replica σ D) (mutation : Mutation) (vault : VaultSession D) :
    Replica σ D :=
  { replica with
    state := enqueueEdit (bodyRepository repo) replica.state mutation
    vault
    made := replica.made ++ [mutation] }

def clientStep (replica : Replica σ D) : ClientAction D → Option (Replica σ D)
  | .saveItem mutationId itemId data envelope =>
      if replica.made.any fun mutation => mutation.mutationId == mutationId then none
      else
        match replica.vault.session, replica.vault.bundle with
        | some _, some bundle =>
            let mutation :=
              replica.vault.mutationOf bundle mutationId itemId (encodeB64 envelope) false
            some (replica.edit repo mutation (replica.vault.saved itemId data))
        | _, _ => some replica
  | .deleteItem mutationId itemId envelope =>
      if replica.made.any fun mutation => mutation.mutationId == mutationId then none
      else
        match replica.vault.session, replica.vault.bundle, replica.vault.itemCache.get itemId with
        | some _, some bundle, some _ =>
            let mutation :=
              replica.vault.mutationOf bundle mutationId itemId (encodeB64 envelope) true
            some (replica.edit repo mutation (replica.vault.tombstoned itemId))
        | _, _, _ => some replica
  | .refreshFromRepository =>
      match replica.vault.session, replica.vault.bundle with
      | some session, some bundle =>
          some { replica with
            vault := loadAllItemsIntoMemory repo openPayload replica.state replica.vault session bundle }
      | _, _ => some replica
  | .pushAll now accessToken deliveries =>
      let (world, state, _) := Sdk.pushAll (bodyRepository repo) backoff (exchange timeText account)
        now accessToken ⟨replica.store, deliveries⟩ replica.state
      some { replica with state, store := world.store }
  | .pull maxPages replies =>
      some { replica with
        state := (Sdk.pull repo ItemRecord.vaultId account.vaultId maxPages replies replica.state).1 }

def Replica.initial (state : σ) (session : Nat) : Replica σ D where
  state := state
  vault := { session := some session, bundle := some account.bundle }
  store := .empty
  made := []

def lastEdit (made : List Mutation) (itemId : Id) : Option Mutation :=
  (made.filter fun mutation => mutation.itemId = itemId).getLast?

def Drained (replica : Replica σ D) : Prop :=
  ∀ mutationId entry, repo.getQueuedMutation replica.state mutationId = some entry →
    entry.state ≠ .localDirty ∧ entry.state ≠ .retryable

/-- Once the queue is drained: no conflict, and the server has the last edit of every item. -/
def Converged (replica : Replica σ D) : Prop :=
  Drained repo replica →
    (∀ mutationId entry, repo.getQueuedMutation replica.state mutationId = some entry →
      entry.state ≠ .conflict) ∧
    ∀ itemId mutation, lastEdit replica.made itemId = some mutation →
      ∃ row, replica.store.rows (account.vaultId, itemId) = some row ∧
        decodeB64 (account.backend == .rust) mutation.ciphertext = some row.ciphertext ∧
        row.deleted = mutation.deleted

/-- An edit is based on the server's revision, after all earlier edits of the item got there; and
a push that attempts an entry has a token and readable answers. -/
def rightBase (replica : Replica σ D) : ClientAction D → Prop
  | .saveItem _ itemId _ _ | .deleteItem _ itemId _ =>
      replica.vault.baseRevision itemId =
          Sync.revisionOf (replica.store.rows (account.vaultId, itemId)) ∧
        ∀ mutation ∈ replica.made, mutation.itemId = itemId →
          (replica.store.outcomes (account.accountId, mutation.mutationId)).isSome = true
  | .pushAll now accessToken deliveries =>
      (∀ entry ∈ repo.listQueuedMutations replica.state, skipped entry now = true) ∨
        (hasToken accessToken = true ∧ ∀ delivery ∈ deliveries, delivery.readable = true)
  | _ => True

end Client

def HasEdit (account : Account) (store : Sync.Store) (mutation : Mutation) : Prop :=
  ∃ row, store.rows (account.vaultId, mutation.itemId) = some row ∧
    decodeB64 (account.backend == .rust) mutation.ciphertext = some row.ciphertext ∧
    row.deleted = mutation.deleted

/-- Each edit has been accepted, or it is the last one of its item, still queued and rightly based. -/
structure Synced (account : Account) (store : Sync.Store) (queue : Id → Option QueuedMutation)
    (made : List Mutation) : Prop where
  ids : (made.map Sync.Mutation.mutationId).Nodup
  vault : ∀ mutation ∈ made, mutation.vaultId = account.vaultId
  queued : ∀ mutationId entry, queue mutationId = some entry →
    entry.mutation ∈ made ∧ entry.mutationId = mutationId ∧ entry.state ≠ .conflict
  recorded : ∀ mutationId outcome, store.outcomes (account.accountId, mutationId) = some outcome →
    mutationId ∈ made.map Sync.Mutation.mutationId ∧ outcome.statusCode = 201 ∧
      ∃ item, outcome.responseBody = .record item
  pending : ∀ mutation ∈ made, store.outcomes (account.accountId, mutation.mutationId) = none →
    (∃ entry, queue mutation.mutationId = some entry ∧
      (entry.state = .localDirty ∨ entry.state = .retryable)) ∧
    mutation.baseRevision = Sync.revisionOf (store.rows (account.vaultId, mutation.itemId)) ∧
    lastEdit made mutation.itemId = some mutation
  stored : ∀ itemId mutation, lastEdit made itemId = some mutation →
    store.outcomes (account.accountId, mutation.mutationId) ≠ none → HasEdit account store mutation

section Synced

variable {account : Account} {store : Sync.Store} {queue : Id → Option QueuedMutation}
  {made : List Mutation}

theorem lastEdit_mem {itemId : Id} {mutation : Mutation} (last : lastEdit made itemId = some mutation) :
    mutation ∈ made ∧ mutation.itemId = itemId := by
  have member := List.mem_of_getLast? last
  rw [List.mem_filter, decide_eq_true_eq] at member
  exact member

theorem lastEdit_append (mutation : Mutation) (itemId : Id) :
    lastEdit (made ++ [mutation]) itemId =
      if mutation.itemId = itemId then some mutation else lastEdit made itemId := by
  unfold lastEdit
  by_cases same : mutation.itemId = itemId <;> simp [List.filter_append, same]

theorem synced_initial : Synced account .empty (fun _ => none) [] := by
  constructor <;> simp [Sync.Store.empty, lastEdit]

structure Takes (account : Account) (store next : Sync.Store) (mutation : Mutation)
    (row : Sync.ItemRow) (item : Sync.ItemRecord) : Prop where
  fresh : store.outcomes (account.accountId, mutation.mutationId) = none
  rows : next.rows = Function.update store.rows (mutation.vaultId, mutation.itemId) (some row)
  outcomes : next.outcomes = Function.update store.outcomes
    (account.accountId, mutation.mutationId) (some ⟨mutation.vaultId, 201, .record item⟩)
  ciphertext : decodeB64 (account.backend == .rust) mutation.ciphertext = some row.ciphertext
  deleted : row.deleted = mutation.deleted

theorem Synced.take (synced : Synced account store queue made) {next : Sync.Store}
    {mutation : Mutation} {row : Sync.ItemRow} {item : Sync.ItemRecord} (member : mutation ∈ made)
    (takes : Takes account store next mutation row item) : Synced account next queue made := by
  obtain ⟨-, -, last⟩ := synced.pending mutation member takes.fresh
  have vault := synced.vault mutation member
  have known : ∀ mutationId, mutationId ≠ mutation.mutationId →
      next.outcomes (account.accountId, mutationId) = store.outcomes (account.accountId, mutationId) := by
    intro mutationId different
    rw [takes.outcomes, Function.update_of_ne]
    exact fun same => different (Prod.mk.inj same).2
  have untouched : ∀ itemId, itemId ≠ mutation.itemId →
      next.rows (account.vaultId, itemId) = store.rows (account.vaultId, itemId) := by
    intro itemId different
    rw [takes.rows, Function.update_of_ne]
    exact fun same => different (Prod.mk.inj same).2
  have now_known : next.outcomes (account.accountId, mutation.mutationId) =
      some ⟨mutation.vaultId, 201, .record item⟩ := by
    rw [takes.outcomes, Function.update_self]
  refine ⟨synced.ids, synced.vault, synced.queued, ?_, ?_, ?_⟩
  · intro mutationId outcome found
    by_cases mine : mutationId = mutation.mutationId
    · subst mine
      rw [now_known, Option.some.injEq] at found
      subst found
      exact ⟨List.mem_map_of_mem member, rfl, item, rfl⟩
    · exact synced.recorded mutationId outcome (known mutationId mine ▸ found)
  · intro other there unknown
    by_cases mine : other.mutationId = mutation.mutationId
    · rw [mine, now_known] at unknown
      cases unknown
    · rw [known _ mine] at unknown
      obtain ⟨entry, based, lastOther⟩ := synced.pending other there unknown
      have elsewhere : other.itemId ≠ mutation.itemId := by
        intro same
        rw [same, last, Option.some.injEq] at lastOther
        exact mine (lastOther ▸ rfl)
      exact ⟨entry, by rw [untouched _ elsewhere]; exact based, lastOther⟩
  · intro itemId other lastOther accepted
    by_cases mine : other.mutationId = mutation.mutationId
    · have same := List.inj_on_of_nodup_map synced.ids (lastEdit_mem lastOther).1 member mine
      subst same
      exact ⟨row, by rw [takes.rows, vault, Function.update_self], takes.ciphertext, takes.deleted⟩
    · rw [known _ mine] at accepted
      have elsewhere : other.itemId ≠ mutation.itemId := by
        intro same
        rw [(lastEdit_mem lastOther).2] at same
        rw [same, last, Option.some.injEq] at lastOther
        exact mine (lastOther ▸ rfl)
      obtain ⟨found, here, rest⟩ := synced.stored itemId other lastOther accepted
      exact ⟨found, by rw [untouched _ elsewhere]; exact here, rest⟩

theorem Synced.requeue (synced : Synced account store queue made) {queue' : Id → Option QueuedMutation}
    {mutation : Mutation} (member : mutation ∈ made) (left : Option QueuedMutation)
    (only : ∀ mutationId, queue' mutationId =
      if mutationId = mutation.mutationId then left else queue mutationId)
    (fits : ∀ entry, left = some entry → entry.mutation = mutation ∧ entry.state ≠ .conflict)
    (kept : store.outcomes (account.accountId, mutation.mutationId) = none →
      ∃ entry, left = some entry ∧ (entry.state = .localDirty ∨ entry.state = .retryable)) :
    Synced account store queue' made := by
  refine ⟨synced.ids, synced.vault, ?_, synced.recorded, ?_, synced.stored⟩
  · intro mutationId entry found
    rw [only] at found
    split at found
    · rename_i mine
      obtain ⟨same, state⟩ := fits entry found
      exact ⟨same ▸ member, by rw [mine, QueuedMutation.mutationId, same], state⟩
    · exact synced.queued mutationId entry found
  · intro other there unknown
    obtain ⟨queued, based⟩ := synced.pending other there unknown
    refine ⟨?_, based⟩
    rw [only]
    split
    · rename_i mine
      exact kept (mine ▸ unknown)
    · exact queued

theorem Synced.edit (synced : Synced account store queue made) {queue' : Id → Option QueuedMutation}
    (entry : QueuedMutation) (vault : entry.mutation.vaultId = account.vaultId)
    (fresh : entry.mutationId ∉ made.map Sync.Mutation.mutationId)
    (only : ∀ mutationId, queue' mutationId =
      if mutationId = entry.mutationId then some entry else queue mutationId)
    (dirty : entry.state = .localDirty)
    (based : entry.mutation.baseRevision =
      Sync.revisionOf (store.rows (account.vaultId, entry.mutation.itemId)))
    (arrived : ∀ mutation ∈ made, mutation.itemId = entry.mutation.itemId →
      (store.outcomes (account.accountId, mutation.mutationId)).isSome = true) :
    Synced account store queue' (made ++ [entry.mutation]) := by
  have unknown : store.outcomes (account.accountId, entry.mutationId) = none := by
    cases found : store.outcomes (account.accountId, entry.mutationId) with
    | none => rfl
    | some outcome => exact absurd (synced.recorded _ outcome found).1 fresh
  constructor
  case ids =>
    rw [List.map_append, List.nodup_append]
    refine ⟨synced.ids, List.nodup_singleton _, ?_⟩
    rintro mutationId member _ here rfl
    rw [List.map_singleton, List.mem_singleton] at here
    subst here
    exact fresh member
  case vault =>
    intro mutation member
    rw [List.mem_append, List.mem_singleton] at member
    obtain member | rfl := member
    · exact synced.vault mutation member
    · exact vault
  case queued =>
    intro mutationId found there
    rw [only] at there
    split at there
    · rename_i mine
      rw [Option.some.injEq] at there
      subst there
      exact ⟨by simp, mine.symm, by rw [dirty]; decide⟩
    · obtain ⟨member, rest⟩ := synced.queued mutationId found there
      exact ⟨List.mem_append_left _ member, rest⟩
  case recorded =>
    intro mutationId outcome found
    obtain ⟨member, rest⟩ := synced.recorded mutationId outcome found
    exact ⟨by rw [List.map_append]; exact List.mem_append_left _ member, rest⟩
  case pending =>
    intro mutation member notThere
    rw [List.mem_append, List.mem_singleton] at member
    obtain member | rfl := member
    · obtain ⟨queued, base, last⟩ := synced.pending mutation member notThere
      have different : mutation.mutationId ≠ entry.mutationId := by
        intro same
        exact fresh (same ▸ List.mem_map_of_mem member)
      have elsewhere : entry.mutation.itemId ≠ mutation.itemId := by
        intro same
        have there := arrived mutation member same.symm
        rw [notThere] at there
        cases there
      refine ⟨by rw [only, if_neg different]; exact queued, base, ?_⟩
      rw [lastEdit_append, if_neg elsewhere]
      exact last
    · refine ⟨⟨entry, by rw [only]; exact if_pos rfl, .inl dirty⟩, based, ?_⟩
      rw [lastEdit_append, if_pos rfl]
  case stored =>
    intro itemId mutation last accepted
    rw [lastEdit_append] at last
    split at last
    · rw [Option.some.injEq] at last
      subst last
      exact absurd unknown accepted
    · exact synced.stored itemId mutation last accepted

end Synced

section Push

variable {account : Account} {store : Sync.Store} {queue : Id → Option QueuedMutation}
  {made : List Mutation}

structure Served (account : Account) (store : Sync.Store) (mutation : Mutation)
    (served : Sync.Store × Sync.ApplyOutcome) : Prop where
  store : served.1 = store ∨ ∃ row item, Takes account store served.1 mutation row item
  outcome : served.2 = .notFound ∨ served.2 = .badRequest ∨
    (∃ item, served.2 = .response 201 (.record item)) ∧
      served.1.outcomes (account.accountId, mutation.mutationId) ≠ none

theorem Synced.serve (synced : Synced account store queue made) {mutation : Mutation}
    (member : mutation ∈ made) (now : Sync.Timestamp) :
    Served account store mutation (serve account store mutation now) := by
  unfold Web.serve Sync.postMutation
  cases checked : Sync.postItem account.backend account.accountId mutation.vaultId mutation now with
  | none => exact ⟨.inl rfl, .inr (.inl rfl)⟩
  | some tx =>
      obtain ⟨backend, accountId, request⟩ := Sync.postItem_request checked
      have outcomeKey : tx.outcomeKey = (account.accountId, mutation.mutationId) := by
        rw [Sync.Tx.outcomeKey, accountId, request]
      have itemKey : tx.itemKey = (mutation.vaultId, mutation.itemId) := by
        rw [Sync.Tx.itemKey, request]
      dsimp only
      cases found : store.outcomes (account.accountId, mutation.mutationId) with
      | some outcome =>
          -- A replay: the stored answer is a 201 with a record.
          obtain ⟨-, status, item, body⟩ := synced.recorded _ outcome found
          rw [Sync.applyMutation_replay (outcomeKey ▸ found), status, body]
          refine ⟨.inl rfl, .inr (.inr ⟨⟨item, rfl⟩, ?_⟩)⟩
          simp [found]
      | none =>
          obtain ⟨-, based, -⟩ := synced.pending mutation member found
          rw [← synced.vault mutation member, ← itemKey, ← request] at based
          have fresh : store.outcomes tx.outcomeKey = none := outcomeKey ▸ found
          obtain refused | ⟨next, row, applied, accepted⟩ := Sync.applyMutation_based fresh based
          · rw [refused]
            exact ⟨.inl rfl, .inl rfl⟩
          · have decodes := (Sync.postItem_correct checked).1
            rw [backend, request] at decodes
            have takes : Takes account store next mutation row (Sync.toItemRecord tx.backend row) := by
              constructor
              · exact found
              · rw [accepted.rows, itemKey]
              · rw [accepted.outcomes, outcomeKey, request]
              · rw [accepted.ciphertext, decodes]
              · rw [accepted.deleted, request]
            rw [applied]
            refine ⟨.inr ⟨row, _, takes⟩, .inr (.inr ⟨⟨_, rfl⟩, ?_⟩)⟩
            change next.outcomes _ ≠ none
            rw [takes.outcomes, Function.update_self]
            exact Option.some_ne_none _

structure Exchanged (account : Account) (store : Sync.Store) (mutation : Mutation)
    (exchanged : World × Reply Body) : Prop where
  store : exchanged.1.store = store ∨
    ∃ row item, Takes account store exchanged.1.store mutation row item
  later : ∀ delivery ∈ exchanged.1.deliveries, delivery.readable = true
  verdict : ∀ status text, exchanged.2 = .response status text →
    status ≠ 409 ∧
    (status = 201 → exchanged.1.store.outcomes (account.accountId, mutation.mutationId) ≠ none) ∧
    (status = 204 ∨ text = .empty ∨ ∃ body, text = .json body)

theorem Served.exchanged {mutation : Mutation} {served : Sync.Store × Sync.ApplyOutcome}
    {deliveries : List Delivery} (sent : Served account store mutation served)
    (timeText : Sync.WireTime → String)
    (later : ∀ delivery ∈ deliveries, delivery.readable = true) :
    Exchanged account store mutation (⟨served.1, deliveries⟩, replyOf timeText served.2) := by
  refine ⟨sent.store, later, ?_⟩
  rintro status text reply
  change replyOf timeText served.2 = _ at reply
  obtain refused | refused | ⟨⟨item, accepted⟩, known⟩ := sent.outcome
  · rw [refused] at reply
    cases reply
    exact ⟨by decide, fun same => absurd same (by decide), .inr (.inr ⟨_, rfl⟩)⟩
  · rw [refused] at reply
    cases reply
    exact ⟨by decide, fun same => absurd same (by decide), .inr (.inr ⟨_, rfl⟩)⟩
  · rw [accepted] at reply
    cases reply
    exact ⟨by decide, fun _ => known, .inr (.inr ⟨_, rfl⟩)⟩

theorem Synced.exchange (synced : Synced account store queue made) {mutation : Mutation}
    (member : mutation ∈ made) (timeText : Sync.WireTime → String) {deliveries : List Delivery}
    (readable : ∀ delivery ∈ deliveries, delivery.readable = true) :
    Exchanged account store mutation (exchange timeText account ⟨store, deliveries⟩ mutation) := by
  cases deliveries with
  | nil =>
      refine ⟨.inl rfl, readable, ?_⟩
      rintro status text ⟨⟩
  | cons delivery later =>
      obtain ⟨first, rest⟩ := List.forall_mem_cons.mp readable
      cases delivery with
      | answered now => exact (synced.serve member now).exchanged timeText rest
      | answerLost now =>
          refine ⟨(synced.serve member now).store, rest, ?_⟩
          rintro status text ⟨⟩
      | answerCut now => cases first
      | lost =>
          refine ⟨.inl rfl, rest, ?_⟩
          rintro status text ⟨⟩
      | refused status text honest =>
          refine ⟨.inl rfl, rest, ?_⟩
          rintro _ _ ⟨⟩
          refine ⟨honest.2, fun same => absurd same honest.1, ?_⟩
          cases text <;> simp_all [Delivery.readable]

variable {σ : Type} {repo : LocalRepository σ ItemRecord RecordConflictError}

theorem Synced.pushOne {state : σ} (lawful : repo.Lawful)
    (synced : Synced account store (repo.getQueuedMutation state) made) {entry : QueuedMutation}
    (member : entry.mutation ∈ made) {exchanged : World × Reply Body}
    (sent : Exchanged account store entry.mutation exchanged) (backoff : BackoffOptions) (now : Nat)
    {accessToken : Option String} (token : hasToken accessToken = true) :
    Synced account exchanged.1.store
      (repo.getQueuedMutation
        (Sdk.pushOne (bodyRepository repo) backoff state entry now accessToken exchanged.2).1) made := by
  have served : Synced account exchanged.1.store (repo.getQueuedMutation state) made := by
    obtain same | ⟨row, item, takes⟩ := sent.store
    · rw [same]
      exact synced
    · exact synced.take member takes
  obtain ⟨left, effect, only⟩ :=
    (pushOne_cases (bodyRepository_lawful lawful) backoff state entry now accessToken
      exchanged.2).effect (bodyRepository_lawful lawful)
  have verdict := sent.verdict
  refine served.requeue member left only ?_ ?_
  · rintro next rfl
    generalize exchanged.2 = reply at effect verdict
    cases effect with
    | syncing => exact ⟨rfl, nofun⟩
    | conflict text => exact absurd rfl (verdict 409 text rfl).1
    | localDirty => exact ⟨rfl, nofun⟩
    | retryable next mutation isRetryable => exact ⟨mutation, by rw [isRetryable]; decide⟩
  · intro unknown
    generalize exchanged.2 = reply at effect verdict
    cases effect with
    | applied value => exact absurd unknown ((verdict 201 _ rfl).2.1 rfl)
    | syncing reply unread =>
        -- With a token and a readable body only the record of a 201 can be refused.
        cases reply with
        | networkFailure => exact absurd token unread
        | response status text =>
            obtain ⟨-, known, read⟩ := verdict status text rfl
            by_cases created : status = 201
            · exact absurd unknown (known created)
            · refine absurd ⟨token, ?_⟩ unread
              obtain noContent | empty | ⟨body, parsed⟩ := read
              · exact .inl noContent
              · exact .inr (.inl ⟨empty, created⟩)
              · exact .inr (.inr ⟨body, parsed, fun same => absurd same created⟩)
    | conflict text => exact absurd rfl (verdict 409 text rfl).1
    | localDirty => exact ⟨_, rfl, .inl rfl⟩
    | retryable next mutation isRetryable => exact ⟨_, rfl, .inr isRetryable⟩

theorem pushAll_skipped {backoff : BackoffOptions} {ω : Type}
    (exchange : ω → Mutation → ω × Reply Body) {now : Nat} (accessToken : Option String) (world : ω)
    {state : σ} (idle : ∀ entry ∈ repo.listQueuedMutations state, skipped entry now = true) :
    Sdk.pushAll (bodyRepository repo) backoff exchange now accessToken world state =
      (world, state, none) := by
  have listed : (bodyRepository repo).listQueuedMutations state = repo.listQueuedMutations state := rfl
  rw [Sdk.pushAll, listed]
  generalize repo.listQueuedMutations state = entries at idle
  induction entries with
  | nil => rfl
  | cons entry rest ih =>
      obtain ⟨here, later⟩ := List.forall_mem_cons.mp idle
      rw [Sdk.pushEntries, if_pos here]
      exact ih later

theorem Synced.pushEntries (lawful : repo.Lawful) (timeText : Sync.WireTime → String)
    (backoff : BackoffOptions) (now : Nat) {accessToken : Option String}
    (token : hasToken accessToken = true) (entries : List QueuedMutation) {world : World} {state : σ}
    (synced : Synced account world.store (repo.getQueuedMutation state) made)
    (members : ∀ entry ∈ entries, entry.mutation ∈ made)
    (readable : ∀ delivery ∈ world.deliveries, delivery.readable = true) :
    let pushed := Sdk.pushEntries (bodyRepository repo) backoff (Web.exchange timeText account)
      now accessToken world state entries
    Synced account pushed.1.store (repo.getQueuedMutation pushed.2.1) made := by
  induction entries generalizing world state with
  | nil => exact synced
  | cons entry rest ih =>
      obtain ⟨member, others⟩ := List.forall_mem_cons.mp members
      have sent := synced.exchange member timeText readable
      have pushed := synced.pushOne lawful member sent backoff now token
      rw [Sdk.pushEntries, if_pos token]
      split
      · exact ih synced others readable
      · dsimp only
        split <;> rename_i step <;> rw [step] at pushed
        · exact ih pushed others sent.later
        · exact pushed

theorem Synced.pushAll (lawful : repo.Lawful) (timeText : Sync.WireTime → String)
    (backoff : BackoffOptions) (now : Nat) {accessToken : Option String}
    (token : hasToken accessToken = true) (world : World) {state : σ}
    (synced : Synced account world.store (repo.getQueuedMutation state) made)
    (readable : ∀ delivery ∈ world.deliveries, delivery.readable = true) :
    let pushed := Sdk.pushAll (bodyRepository repo) backoff (Web.exchange timeText account)
      now accessToken world state
    Synced account pushed.1.store (repo.getQueuedMutation pushed.2.1) made := by
  refine synced.pushEntries lawful timeText backoff now token _ ?_ readable
  intro entry listed
  obtain ⟨mutationId, queued⟩ := (lawful.mem_listQueued state entry).mp listed
  exact (synced.queued mutationId entry queued).1

end Push

section Runs

variable {σ D : Type} {repo : LocalRepository σ ItemRecord RecordConflictError}
  {openPayload : Nat → AccountBundle → Id → String → Option D} {timeText : Sync.WireTime → String}
  {account : Account} {backoff : BackoffOptions}

theorem loadAllItemsIntoMemory_bundle (state : σ) (vault : VaultSession D) (session : Nat)
    (bundle : AccountBundle) :
    (loadAllItemsIntoMemory repo openPayload state vault session bundle).bundle = vault.bundle := by
  have records : ∀ (items : List ItemRecord) (vault : VaultSession D),
      (items.foldl (fun vault record => vault.loadRecord record
        (openPayload session bundle record.itemId record.ciphertext)) vault).bundle =
        vault.bundle := by
    intro items
    induction items with
    | nil => exact fun _ => rfl
    | cons record rest ih =>
        intro vault
        rw [List.foldl_cons, ih, VaultSession.loadRecord_bundle]
  have overlay : ∀ (entries : List QueuedMutation) (vault : VaultSession D),
      (entries.foldl (fun vault entry => vault.loadQueued bundle entry
        (openPayload session bundle entry.mutation.itemId entry.mutation.ciphertext)) vault).bundle =
        vault.bundle := by
    intro entries
    induction entries with
    | nil => exact fun _ => rfl
    | cons entry rest ih =>
        intro vault
        rw [List.foldl_cons, ih, VaultSession.loadQueued_bundle]
  unfold loadAllItemsIntoMemory
  rw [overlay, records]

/-- What every rightly based run keeps. -/
structure Replica.Valid (repo : LocalRepository σ ItemRecord RecordConflictError) (account : Account)
    (replica : Replica σ D) : Prop where
  bundle : replica.vault.bundle = some account.bundle
  synced : Synced account replica.store (repo.getQueuedMutation replica.state) replica.made

theorem Replica.Valid.edit {replica : Replica σ D} (valid : replica.Valid repo account)
    (lawful : repo.Lawful) {mutationId itemId : Id} (ciphertext : String) (deleted : Bool)
    (fresh : ¬ (replica.made.any fun mutation => mutation.mutationId == mutationId) = true)
    (based : replica.vault.baseRevision itemId =
      Sync.revisionOf (replica.store.rows (account.vaultId, itemId)))
    (arrived : ∀ mutation ∈ replica.made, mutation.itemId = itemId →
      (replica.store.outcomes (account.accountId, mutation.mutationId)).isSome = true)
    {vault : VaultSession D} (bundle : vault.bundle = replica.vault.bundle) :
    (replica.edit repo
      (replica.vault.mutationOf account.bundle mutationId itemId ciphertext deleted)
      vault).Valid repo account := by
  refine ⟨bundle.trans valid.bundle, ?_⟩
  refine valid.synced.edit ⟨_, .localDirty, 0, none, none⟩ rfl ?_ ?_ rfl based arrived
  · intro there
    rw [List.mem_map] at there
    obtain ⟨mutation, member, same⟩ := there
    apply fresh
    rw [List.any_eq_true]
    exact ⟨mutation, member, beq_iff_eq.mpr same⟩
  · exact lawful.getQueued_enqueue replica.state _

theorem Replica.Valid.step (lawful : repo.Lawful) {replica next : Replica σ D}
    {action : ClientAction D} (valid : replica.Valid repo account)
    (right : rightBase repo account replica action)
    (stepped : clientStep repo openPayload timeText account backoff replica action = some next) :
    next.Valid repo account := by
  have bundle := valid.bundle
  cases action with
  | saveItem mutationId itemId data envelope =>
      simp only [clientStep] at stepped
      split at stepped
      · cases stepped
      · rename_i fresh
        split at stepped <;> cases stepped
        · rename_i unlocked
          rw [bundle, Option.some.injEq] at unlocked
          subst unlocked
          exact valid.edit lawful _ false fresh right.1 right.2 rfl
        · exact valid
  | deleteItem mutationId itemId envelope =>
      simp only [clientStep] at stepped
      split at stepped
      · cases stepped
      · rename_i fresh
        split at stepped <;> cases stepped
        · rename_i unlocked _
          rw [bundle, Option.some.injEq] at unlocked
          subst unlocked
          exact valid.edit lawful _ true fresh right.1 right.2 (VaultSession.tombstoned_bundle _ _)
        · exact valid
  | refreshFromRepository =>
      simp only [clientStep] at stepped
      split at stepped <;> cases stepped
      · exact ⟨(loadAllItemsIntoMemory_bundle _ _ _ _).trans bundle, valid.synced⟩
      · exact valid
  | pushAll now accessToken deliveries =>
      simp only [clientStep, Option.some.injEq] at stepped
      subst stepped
      obtain idle | ⟨token, readable⟩ := right
      · rw [pushAll_skipped (exchange timeText account) accessToken ⟨replica.store, deliveries⟩ idle]
        exact ⟨bundle, valid.synced⟩
      · exact ⟨bundle, Synced.pushAll lawful timeText backoff now token
          ⟨replica.store, deliveries⟩ valid.synced readable⟩
  | pull maxPages replies =>
      simp only [clientStep, Option.some.injEq] at stepped
      subst stepped
      refine ⟨bundle, ?_⟩
      have kept : repo.getQueuedMutation
          (Sdk.pull repo ItemRecord.vaultId account.vaultId maxPages replies replica.state).1 =
            repo.getQueuedMutation replica.state := by
        funext mutationId
        exact lawful.pull _ _ _ _ _ mutationId
      dsimp only
      rw [kept]
      exact valid.synced

theorem Replica.Valid.converged {replica : Replica σ D} (valid : replica.Valid repo account) :
    Converged repo account replica := by
  intro drained
  refine ⟨fun mutationId entry queued => (valid.synced.queued mutationId entry queued).2.2, ?_⟩
  intro itemId mutation last
  obtain ⟨member, item⟩ := lastEdit_mem last
  have arrived : replica.store.outcomes (account.accountId, mutation.mutationId) ≠ none := by
    intro unknown
    -- What has not arrived is still LOCAL_DIRTY or RETRYABLE.
    obtain ⟨⟨entry, queued, waiting⟩, -⟩ := valid.synced.pending mutation member unknown
    obtain ⟨notDirty, notRetryable⟩ := drained _ entry queued
    exact waiting.elim notDirty notRetryable
  have stored := valid.synced.stored itemId mutation last arrived
  rw [HasEdit, item] at stored
  exact stored

theorem Replica.valid_initial {state : σ} (session : Nat)
    (noQueue : ∀ mutationId, repo.getQueuedMutation state mutationId = none) :
    (Replica.initial (D := D) account state session).Valid repo account := by
  refine ⟨rfl, ?_⟩
  change Synced account .empty (repo.getQueuedMutation state) []
  rw [funext noQueue]
  exact synced_initial

/-- A client whose edits are all rightly based converges in every run. -/
theorem offline_convergence (lawful : repo.Lawful) {state : σ} {session : Nat}
    (noQueue : ∀ mutationId, repo.getQueuedMutation state mutationId = none)
    {actions : List (ClientAction D)} {final : Replica σ D}
    (ran : run (clientStep repo openPayload timeText account backoff)
      (.initial account state session) actions = some final)
    (right : Every (clientStep repo openPayload timeText account backoff) (rightBase repo account)
      (.initial account state session) actions) :
    Converged repo account final := by
  have valid : final.Valid repo account :=
    run_invariant (fun _ _ _ valid right stepped => valid.step lawful right stepped)
      (Replica.valid_initial session noQueue) right ran
  exact valid.converged

end Runs

section Samples

def sampleAccount : Account := ⟨.node, "account", "vault"⟩

def sampleStep (replica : Replica InMemoryLocalRepository String) (action : ClientAction String) :
    Option (Replica InMemoryLocalRepository String) :=
  clientStep InMemoryLocalRepository.operations (fun _ _ _ ciphertext => some ciphertext)
    (fun _ => "time") sampleAccount defaultBackoff replica action

instance (replica : Replica InMemoryLocalRepository String) (action : ClientAction String) :
    Decidable (rightBase InMemoryLocalRepository.operations sampleAccount replica action) := by
  cases action <;> unfold rightBase <;> infer_instance

def sampleStart : Replica InMemoryLocalRepository String :=
  .initial sampleAccount .empty 1

def refreshedEdits : List (ClientAction String) :=
  [.saveItem "m1" "item" "first" [1], .pushAll 0 (some "token") [.answered 0],
    .refreshFromRepository, .saveItem "m2" "item" "second" [2],
    .pushAll 0 (some "token") [.answered 0]]

theorem offline_convergence_refreshed :
    (reached sampleStep sampleStart refreshedEdits).made.length = 2 ∧
      Converged InMemoryLocalRepository.operations sampleAccount
        (reached sampleStep sampleStart refreshedEdits) := by
  refine ⟨by decide +kernel, ?_⟩
  have ran : run sampleStep sampleStart refreshedEdits =
      some (reached sampleStep sampleStart refreshedEdits) := run_reached (by decide +kernel)
  have right : Every sampleStep (rightBase InMemoryLocalRepository.operations sampleAccount)
      sampleStart refreshedEdits := by
    decide +kernel
  exact offline_convergence InMemoryLocalRepository.operations_lawful (fun _ => rfl) ran right

def queuedEdits : List (ClientAction String) :=
  [.saveItem "m1" "item" "first" [1], .saveItem "m2" "item" "second" [2],
    .pushAll 0 (some "token") [.answered 0, .answered 0]]

/-- Both edits are sent with base revision 0, and the second one ends in CONFLICT. -/
theorem queued_edits_conflict :
    ¬ ∀ (actions : List (ClientAction String)) (final : Replica InMemoryLocalRepository String),
      run sampleStep sampleStart actions = some final →
      Converged InMemoryLocalRepository.operations sampleAccount final := by
  intro always
  have converged := always queuedEdits _ (run_reached (by decide +kernel))
  have queue : (reached sampleStep sampleStart queuedEdits).state.queue.get "m2" =
      some ⟨⟨"m2", "item", "vault", 0, encodeB64 [2], Sync.envelopeVersionV1, false⟩, .conflict, 0,
        none, none⟩ := by
    decide +kernel
  have only : (reached sampleStep sampleStart queuedEdits).state.queue.values.all
      (fun entry => entry.state == .conflict) = true := by
    decide +kernel
  have drained : Drained InMemoryLocalRepository.operations
      (reached sampleStep sampleStart queuedEdits) := by
    intro mutationId entry queued
    have listed := (InMemoryLocalRepository.operations_lawful.mem_listQueued _ entry).mpr
      ⟨mutationId, queued⟩
    have state := beq_iff_eq.mp (List.all_eq_true.mp only entry listed)
    rw [state]
    decide
  exact (converged drained).1 "m2" _ queue rfl

end Samples

end ZenPass.Web
