import ZenPass.Lib.Utf16
import ZenPass.Sdk.Records

set_option autoImplicit false

namespace ZenPass.Web

open KeyedStore Utf16 Sdk

structure StoredQueueEntry where
  mutationId : Id
  mutation : Mutation
  state : MutationSyncState
  attempts : Nat
  nextRetryAt : Option Nat
  lastError : Option String
deriving DecidableEq, Repr

def toStoredQueueEntry (entry : QueuedMutation) : StoredQueueEntry where
  mutationId := entry.mutation.mutationId
  mutation := entry.mutation
  state := entry.state
  attempts := entry.attempts
  nextRetryAt := entry.nextRetryAt
  lastError := entry.lastError

def toQueuedMutation (stored : StoredQueueEntry) : QueuedMutation where
  mutation := stored.mutation
  state := stored.state
  attempts := stored.attempts
  nextRetryAt := stored.nextRetryAt
  lastError := stored.lastError

theorem toQueuedMutation_toStored (entry : QueuedMutation) :
    toQueuedMutation (toStoredQueueEntry entry) = entry := rfl

/-- The object stores. String keys compare by code units, array keys element by element. -/
structure IndexedDBLocalRepository where
  items : ObjectStore (List DomString) ItemRecord
  cursors : ObjectStore DomString String
  queue : ObjectStore DomString StoredQueueEntry

namespace IndexedDBLocalRepository

def empty : IndexedDBLocalRepository := ⟨.empty, .empty, .empty⟩

def key (vaultId itemId : Id) : List DomString := [⟨vaultId⟩, ⟨itemId⟩]

def putItem (repo : IndexedDBLocalRepository) (item : ItemRecord) :
    Except RecordConflictError IndexedDBLocalRepository :=
  match assertMonotonicPut (repo.items.get (key item.vaultId item.itemId)) item with
  | .ok () => .ok { repo with items := repo.items.put (key item.vaultId item.itemId) item }
  | .error error => .error error

def operations : LocalRepository IndexedDBLocalRepository ItemRecord RecordConflictError where
  getItem repo vaultId itemId := repo.items.get (key vaultId itemId)
  putItem := putItem
  -- `getAll` on the index lists the rows of one vault in primary key order.
  listItems repo vaultId := repo.items.getAll.filter fun item => item.vaultId = vaultId
  -- The stored object repeats the key; only its cursor is read.
  getCursor repo vaultId := repo.cursors.get ⟨vaultId⟩
  setCursor repo vaultId cursor :=
    { repo with cursors := repo.cursors.put ⟨vaultId⟩ cursor }
  enqueueMutation repo entry :=
    { repo with
      queue := repo.queue.put ⟨entry.mutation.mutationId⟩ (toStoredQueueEntry entry) }
  getQueuedMutation repo mutationId :=
    (repo.queue.get ⟨mutationId⟩).map toQueuedMutation
  listQueuedMutations repo := repo.queue.getAll.map toQueuedMutation
  dequeueMutation repo mutationId :=
    { repo with queue := repo.queue.delete ⟨mutationId⟩ }

theorem putItem_isOk (repo : IndexedDBLocalRepository) (item : ItemRecord) :
    (putItem repo item).isOk =
      (assertMonotonicPut (repo.items.get (key item.vaultId item.itemId)) item).isOk := by
  unfold putItem
  split <;> rename_i checked <;> rw [checked] <;> rfl

theorem operations_lawful : operations.Lawful where
  getQueued_enqueue state entry mutationId := by
    change ((state.queue.put ⟨entry.mutationId⟩ (toStoredQueueEntry entry)).get
      ⟨mutationId⟩).map toQueuedMutation = _
    split
    · rename_i same
      rw [same, ObjectStore.get_put_self]
      rfl
    · rename_i different
      rw [ObjectStore.get_put_of_ne _ _ fun same => different (DomString.mk_injective same)]
      rfl
  getQueued_dequeue state removed mutationId := by
    change ((state.queue.delete ⟨removed⟩).get ⟨mutationId⟩).map
      toQueuedMutation = _
    split
    · rename_i same
      rw [same, ObjectStore.get_delete_self]
      rfl
    · rename_i different
      rw [ObjectStore.get_delete_of_ne _ fun same => different (DomString.mk_injective same)]
      rfl
  getQueued_putItem state item next put mutationId := by
    change putItem state item = .ok next at put
    unfold putItem at put
    split at put <;> cases put
    rfl
  putItem_enqueue state entry item := by
    change (putItem _ item).isOk = (putItem state item).isOk
    rw [putItem_isOk, putItem_isOk]
    rfl
  getQueued_setCursor _ _ _ _ := rfl
  mem_listQueued state entry := by
    change entry ∈ state.queue.getAll.map toQueuedMutation ↔
      ∃ mutationId, (state.queue.get ⟨mutationId⟩).map toQueuedMutation = some entry
    simp only [ObjectStore.getAll, List.map_map, List.mem_map, Option.map_eq_some_iff,
      ObjectStore.get_eq_some]
    constructor
    · rintro ⟨⟨⟨mutationId⟩, stored⟩, member, rfl⟩
      exact ⟨mutationId, stored, member, rfl⟩
    · rintro ⟨mutationId, stored, member, rfl⟩
      exact ⟨(⟨mutationId⟩, stored), member, rfl⟩

def Keyed (repo : IndexedDBLocalRepository) : Prop :=
  ∀ stored record, repo.items.get stored = some record → stored = key record.vaultId record.itemId

theorem key_injective {vaultId otherVault itemId otherItem : Id}
    (same : key vaultId itemId = key otherVault otherItem) :
    vaultId = otherVault ∧ itemId = otherItem := by
  obtain ⟨vault, rest⟩ := List.cons.inj same
  exact ⟨DomString.mk_injective vault, DomString.mk_injective (List.cons.inj rest).1⟩

theorem putItem_ok {repo next : IndexedDBLocalRepository} {item : ItemRecord}
    (put : putItem repo item = .ok next) :
    next = { repo with items := repo.items.put (key item.vaultId item.itemId) item } := by
  unfold putItem at put
  split at put
  · cases put
    rfl
  · cases put

theorem operations_recordLaws : operations.RecordLaws Keyed where
  putItem_iff state item := by
    change (putItem state item).isOk = true ↔ _
    rw [putItem_isOk]
    rfl
  getItem_putItem state item next put plain vaultId itemId plain' := by
    rw [putItem_ok put]
    change (state.items.put (key item.vaultId item.itemId) item).get (key vaultId itemId) = _
    split
    · rename_i same
      rw [same.1, same.2, ObjectStore.get_put_self]
    · rename_i different
      exact ObjectStore.get_put_of_ne _ _ fun same => different (key_injective same)
  getItem_setCursor _ _ _ _ _ := rfl
  getItem_enqueue _ _ _ _ := rfl
  getItem_dequeue _ _ _ _ := rfl
  getCursor_setCursor state vaultId cursor other := by
    change (state.cursors.put ⟨vaultId⟩ cursor).get ⟨other⟩ = _
    split
    · rename_i same
      rw [same, ObjectStore.get_put_self]
    · rename_i different
      exact ObjectStore.get_put_of_ne _ _ fun same => different (DomString.mk_injective same)
  getCursor_putItem state item next put vaultId := by
    rw [putItem_ok put]
    rfl
  getCursor_enqueue _ _ _ := rfl
  getCursor_dequeue _ _ _ := rfl
  kept_putItem state item next put kept := by
    rw [putItem_ok put]
    intro stored record found
    by_cases same : stored = key item.vaultId item.itemId
    · rw [same, ObjectStore.get_put_self] at found
      cases found
      exact same
    · rw [ObjectStore.get_put_of_ne _ _ same] at found
      exact kept stored record found
  kept_setCursor _ _ _ kept := kept
  kept_enqueue _ _ kept := kept
  kept_dequeue _ _ kept := kept
  mem_listItems state kept vaultId record := by
    change record ∈ state.items.getAll.filter (fun item => item.vaultId = vaultId) ↔
      record.vaultId = vaultId ∧ state.items.get (key vaultId record.itemId) = some record
    rw [List.mem_filter, decide_eq_true_eq, and_comm, and_congr_right_iff]
    rintro rfl
    constructor
    · intro member
      obtain ⟨⟨stored, held⟩, there, rfl⟩ := List.mem_map.mp member
      have found := (state.items.get_eq_some stored held).mpr there
      rw [← kept stored held found]
      exact found
    · intro found
      exact List.mem_map.mpr ⟨_, (state.items.get_eq_some _ _).mp found, rfl⟩

end IndexedDBLocalRepository

def beforeNul (c : Char) : Bool := c != '\x00'

/-- The array key behind a joined key: what precedes its first NUL and what follows it. -/
def splitKey (key : String) : List DomString :=
  match key.toList.dropWhile beforeNul with
  | [] => [⟨key⟩]
  | _ :: itemId =>
      [⟨String.ofList (key.toList.takeWhile beforeNul)⟩, ⟨String.ofList itemId⟩]

theorem eq_nul_of_dropWhile {chars rest : List Char} {c : Char}
    (dropped : chars.dropWhile beforeNul = c :: rest) : c = '\x00' := by
  have stop := List.head?_dropWhile_not beforeNul chars
  rw [dropped] at stop
  simpa [beforeNul] using stop

theorem splitKey_injective : Function.Injective splitKey := by
  intro a b same
  unfold splitKey at same
  split at same <;> split at same
  · rw [List.cons.injEq] at same
    exact DomString.mk_injective same.1
  · simp at same
  · simp at same
  · rename_i c restA droppedA _ d restB droppedB
    simp only [List.cons.injEq, and_true] at same
    have vault := String.ofList_injective (DomString.mk_injective same.1)
    have item := String.ofList_injective (DomString.mk_injective same.2)
    rw [eq_nul_of_dropWhile droppedA] at droppedA
    rw [eq_nul_of_dropWhile droppedB] at droppedB
    apply String.ext
    rw [← List.takeWhile_append_dropWhile (p := beforeNul) (l := a.toList),
      ← List.takeWhile_append_dropWhile (p := beforeNul) (l := b.toList), vault, droppedA, droppedB,
      item]

theorem splitKey_key {vaultId : Id} (plain : '\x00' ∉ vaultId.toList) (itemId : Id) :
    splitKey (InMemoryLocalRepository.key vaultId itemId) =
      IndexedDBLocalRepository.key vaultId itemId := by
  have chars : (InMemoryLocalRepository.key vaultId itemId).toList =
      vaultId.toList ++ '\x00' :: itemId.toList := by
    simp [InMemoryLocalRepository.key]
  have pass : ∀ c ∈ vaultId.toList, beforeNul c = true := by
    intro c member
    have different : c ≠ '\x00' := fun same => plain (same ▸ member)
    simpa [beforeNul] using different
  have dropped : (InMemoryLocalRepository.key vaultId itemId).toList.dropWhile beforeNul =
      '\x00' :: itemId.toList := by
    rw [chars, List.dropWhile_append_of_pos pass]
    rfl
  have taken : (InMemoryLocalRepository.key vaultId itemId).toList.takeWhile beforeNul =
      vaultId.toList := by
    rw [chars, List.takeWhile_append_of_pos pass]
    simp [beforeNul]
  simp [splitKey, dropped, taken, IndexedDBLocalRepository.key]

/-- Results of the two implementations; the order of `listItems` is left open. -/
def Agrees : Result → Result → Prop
  | .items a, .items b => a.Perm b
  | a, b => a = b

theorem Agrees.refl (result : Result) : Agrees result result := by
  cases result <;> simp [Agrees]

structure Related (memory : InMemoryLocalRepository) (stored : IndexedDBLocalRepository) : Prop where
  items : Mirrors splitKey id memory.items stored.items
  cursors : Mirrors DomString.mk id memory.cursors stored.cursors
  queue : Mirrors DomString.mk toStoredQueueEntry memory.queue stored.queue
  queueKeyed : ∀ entry ∈ memory.queue.entries, entry.2.mutationId = entry.1

theorem related_empty : Related .empty .empty where
  items := mirrors_empty
  cursors := mirrors_empty
  queue := mirrors_empty
  queueKeyed := by simp [InMemoryLocalRepository.empty, InsertionMap.empty]

def queuedIds (ids : List Id) : Operation → List Id
  | .enqueueMutation entry =>
      if entry.mutationId ∈ ids then ids else ids ++ [entry.mutationId]
  | .dequeueMutation mutationId => ids.filter fun other => other ≠ mutationId
  | _ => ids

def AscendingIds (ids : List Id) : Prop := (ids.map DomString.mk).Pairwise (· < ·)

/-- Whenever the queue is listed, its ids were first enqueued in ascending order. -/
def ListedAscending : List Id → List Operation → Prop
  | _, [] => True
  | ids, op :: rest =>
      (op = .listQueuedMutations → AscendingIds ids) ∧ ListedAscending (queuedIds ids op) rest

def PlainVaultId : Operation → Prop
  | .getItem vaultId _ => '\x00' ∉ vaultId.toList
  | .putItem item => '\x00' ∉ item.vaultId.toList
  | _ => True

section Step

variable {memory : InMemoryLocalRepository} {stored : IndexedDBLocalRepository}

theorem Related.getItem (related : Related memory stored) {vaultId : Id}
    (plain : '\x00' ∉ vaultId.toList) (itemId : Id) :
    stored.items.get (IndexedDBLocalRepository.key vaultId itemId) =
      memory.items.get (InMemoryLocalRepository.key vaultId itemId) := by
  rw [← splitKey_key plain itemId, related.items.get splitKey_injective, Option.map_id_fun, id]

theorem Related.putItem (related : Related memory stored) {item : ItemRecord}
    (plain : '\x00' ∉ item.vaultId.toList) :
    Related
        (InMemoryLocalRepository.operations.perform memory (.putItem item)).1
        (IndexedDBLocalRepository.operations.perform stored (.putItem item)).1 ∧
      (InMemoryLocalRepository.operations.perform memory (.putItem item)).2 =
        (IndexedDBLocalRepository.operations.perform stored (.putItem item)).2 := by
  have same := related.getItem plain item.itemId
  simp only [LocalRepository.perform, InMemoryLocalRepository.operations,
    IndexedDBLocalRepository.operations, InMemoryLocalRepository.putItem,
    IndexedDBLocalRepository.putItem, same]
  cases assertMonotonicPut (memory.items.get (InMemoryLocalRepository.key item.vaultId item.itemId)) item with
  | error error => exact ⟨related, rfl⟩
  | ok =>
      refine ⟨⟨?_, related.cursors, related.queue, related.queueKeyed⟩, rfl⟩
      rw [← splitKey_key plain item.itemId]
      exact related.items.put splitKey_injective _ item

theorem Related.listQueuedMutations (related : Related memory stored) :
    memory.queue.values = stored.queue.getAll.map toQueuedMutation ↔
      AscendingIds memory.queue.keys := by
  rw [AscendingIds, ← related.queue.getAll_eq_iff DomString.mk_injective
    (fun row => ⟨row.mutationId⟩)
    (fun entry member => congrArg DomString.mk (related.queueKeyed entry member))]
  have back : (memory.queue.values.map toStoredQueueEntry).map toQueuedMutation =
      memory.queue.values := by
    rw [List.map_map]
    exact List.map_id _
  constructor
  · intro same
    have stores : ∀ row ∈ stored.queue.getAll, toStoredQueueEntry (toQueuedMutation row) = row := by
      intro row member
      obtain ⟨⟨key, value⟩, there, rfl⟩ := List.mem_map.mp member
      obtain ⟨entry, -, translated⟩ := (related.queue _).mp there
      rw [← (Prod.mk.inj translated).2, toQueuedMutation_toStored]
    rw [same, List.map_map]
    exact (List.map_congr_left stores |>.trans (List.map_id _)).symm
  · intro same
    rw [same, back]

theorem Related.perform (related : Related memory stored) (op : Operation) (plain : PlainVaultId op) :
    Related (InMemoryLocalRepository.operations.perform memory op).1
        (IndexedDBLocalRepository.operations.perform stored op).1 ∧
      (InMemoryLocalRepository.operations.perform memory op).1.queue.keys =
        queuedIds memory.queue.keys op ∧
      (Agrees (InMemoryLocalRepository.operations.perform memory op).2
          (IndexedDBLocalRepository.operations.perform stored op).2 ↔
        (op = .listQueuedMutations → AscendingIds memory.queue.keys)) := by
  cases op with
  | getItem vaultId itemId =>
      refine ⟨related, rfl, ?_⟩
      simpa [LocalRepository.perform, Agrees, InMemoryLocalRepository.operations,
        IndexedDBLocalRepository.operations] using (related.getItem plain itemId).symm
  | putItem item =>
      obtain ⟨next, same⟩ := related.putItem plain
      refine ⟨next, ?_, ?_⟩
      · simp only [LocalRepository.perform, InMemoryLocalRepository.operations,
          InMemoryLocalRepository.putItem, queuedIds]
        cases assertMonotonicPut _ item <;> rfl
      · rw [same]
        exact iff_of_true (Agrees.refl _) (by simp)
  | listItems vaultId =>
      refine ⟨related, rfl, iff_of_true ?_ (by simp)⟩
      have perm := related.items.getAll_perm splitKey_injective
      rw [List.map_id] at perm
      exact (perm.filter _).symm
  | getCursor vaultId =>
      refine ⟨related, rfl, ?_⟩
      have same := related.cursors.get DomString.mk_injective vaultId
      simp [LocalRepository.perform, Agrees, InMemoryLocalRepository.operations,
        IndexedDBLocalRepository.operations, same]
  | setCursor vaultId cursor =>
      exact ⟨⟨related.items, related.cursors.put DomString.mk_injective vaultId cursor, related.queue,
        related.queueKeyed⟩, rfl, iff_of_true rfl (by simp)⟩
  | enqueueMutation entry =>
      refine ⟨⟨related.items, related.cursors,
        related.queue.put DomString.mk_injective entry.mutationId entry, ?_⟩,
        memory.queue.keys_set entry.mutationId entry, iff_of_true rfl (by simp)⟩
      intro other member
      obtain rfl | ⟨-, there⟩ := (memory.queue.mem_set _ _ _).mp member
      · rfl
      · exact related.queueKeyed other there
  | getQueuedMutation mutationId =>
      refine ⟨related, rfl, ?_⟩
      have same := related.queue.get DomString.mk_injective mutationId
      simp [LocalRepository.perform, Agrees, InMemoryLocalRepository.operations,
        IndexedDBLocalRepository.operations, same, Function.comp_def, toQueuedMutation_toStored]
  | listQueuedMutations =>
      refine ⟨related, rfl, ?_⟩
      simpa [LocalRepository.perform, Agrees, InMemoryLocalRepository.operations,
        IndexedDBLocalRepository.operations] using related.listQueuedMutations
  | dequeueMutation mutationId =>
      refine ⟨⟨related.items, related.cursors,
        related.queue.delete DomString.mk_injective mutationId, ?_⟩,
        memory.queue.keys_delete mutationId, iff_of_true rfl (by simp)⟩
      intro other member
      exact related.queueKeyed other ((memory.queue.mem_delete _ _).mp member).2

end Step

theorem Related.results {memory : InMemoryLocalRepository} {stored : IndexedDBLocalRepository}
    (related : Related memory stored) (ops : List Operation) (plain : ∀ op ∈ ops, PlainVaultId op) :
    List.Forall₂ Agrees (InMemoryLocalRepository.operations.results memory ops)
        (IndexedDBLocalRepository.operations.results stored ops) ↔
      ListedAscending memory.queue.keys ops := by
  induction ops generalizing memory stored with
  | nil => exact iff_of_true .nil trivial
  | cons op rest ih =>
      obtain ⟨next, keys, agree⟩ := related.perform op (plain op List.mem_cons_self)
      rw [LocalRepository.results, LocalRepository.results, List.forall₂_cons, agree,
        ih next fun other member => plain other (List.mem_cons_of_mem op member), keys]
      rfl

/-- Over every sequence of operations, the two implementations agree exactly when each listing of
the queue finds its ids first enqueued in ascending order. -/
theorem indexedDb_refines_inMemory (ops : List Operation) (plain : ∀ op ∈ ops, PlainVaultId op) :
    List.Forall₂ Agrees
        (InMemoryLocalRepository.operations.results InMemoryLocalRepository.empty ops)
        (IndexedDBLocalRepository.operations.results IndexedDBLocalRepository.empty ops) ↔
      ListedAscending [] ops :=
  related_empty.results ops plain

section Samples

def ascendingOperations : List Operation :=
  [.putItem (sampleRecord 2), .putItem (sampleRecord 1), .listItems "vault",
    .enqueueMutation (sampleEntry "m1"), .enqueueMutation (sampleEntry "m2"), .listQueuedMutations,
    .dequeueMutation "m1", .listQueuedMutations]

theorem indexedDb_refines_inMemory_ascending :
    List.Forall₂ Agrees
      (InMemoryLocalRepository.operations.results InMemoryLocalRepository.empty ascendingOperations)
      (IndexedDBLocalRepository.operations.results IndexedDBLocalRepository.empty
        ascendingOperations) := by
  have plain : ∀ op ∈ ascendingOperations, PlainVaultId op := by
    simp [ascendingOperations, PlainVaultId, sampleRecord]
  refine (indexedDb_refines_inMemory ascendingOperations plain).mpr ?_
  simp only [ascendingOperations, ListedAscending, AscendingIds, reduceCtorEq, false_implies,
    true_and, and_true, true_implies]
  decide

def descendingOperations : List Operation :=
  [.enqueueMutation (sampleEntry "m2"), .enqueueMutation (sampleEntry "m1"), .listQueuedMutations]

theorem descending_queue_differs :
    ¬ ∀ ops : List Operation,
      List.Forall₂ Agrees
        (InMemoryLocalRepository.operations.results InMemoryLocalRepository.empty ops)
        (IndexedDBLocalRepository.operations.results IndexedDBLocalRepository.empty ops) := by
  intro always
  have agree := always descendingOperations
  simp only [descendingOperations, LocalRepository.results, List.forall₂_cons] at agree
  have listed : Result.queue [sampleEntry "m2", sampleEntry "m1"] =
      .queue [sampleEntry "m1", sampleEntry "m2"] := agree.2.2.1
  revert listed
  decide

end Samples

end ZenPass.Web
