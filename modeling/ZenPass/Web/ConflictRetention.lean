import ZenPass.Web.Convergence
import ZenPass.Web.IndexedDbRepository
import ZenPass.Web.SyncTasks

set_option autoImplicit false

-- A conflict stays open from the 409 until its replacement is queued. What a restart leaves of it
-- is what the repository holds.

namespace ZenPass.Web

open Sdk Transition

variable {σ κ : Type}

/-- Records are a keyed store of their own, `slot` is the key of an item. -/
structure ItemsKeyed (repo : LocalRepository σ ItemRecord RecordConflictError)
    (slot : Id → Id → κ) : Prop where
  getItem_putItem : ∀ state item next, repo.putItem state item = .ok next → ∀ vaultId itemId,
    (slot vaultId itemId = slot item.vaultId item.itemId →
      repo.getItem next vaultId itemId = some item) ∧
    (slot vaultId itemId ≠ slot item.vaultId item.itemId →
      repo.getItem next vaultId itemId = repo.getItem state vaultId itemId)
  getItem_enqueue : ∀ state entry vaultId itemId,
    repo.getItem (repo.enqueueMutation state entry) vaultId itemId =
      repo.getItem state vaultId itemId
  getItem_dequeue : ∀ state mutationId vaultId itemId,
    repo.getItem (repo.dequeueMutation state mutationId) vaultId itemId =
      repo.getItem state vaultId itemId
  getItem_setCursor : ∀ state cursorOf cursor vaultId itemId,
    repo.getItem (repo.setCursor state cursorOf cursor) vaultId itemId =
      repo.getItem state vaultId itemId

theorem inMemory_itemsKeyed :
    ItemsKeyed InMemoryLocalRepository.operations InMemoryLocalRepository.key where
  getItem_putItem state item next put vaultId itemId := by
    change InMemoryLocalRepository.putItem state item = .ok next at put
    unfold InMemoryLocalRepository.putItem at put
    split at put <;> cases put
    constructor
    · intro same
      change (state.items.set _ item).get _ = _
      rw [same, KeyedStore.InsertionMap.get_set_self]
    · intro different
      exact KeyedStore.InsertionMap.get_set_of_ne state.items item different
  getItem_enqueue _ _ _ _ := rfl
  getItem_dequeue _ _ _ _ := rfl
  getItem_setCursor _ _ _ _ _ := rfl

theorem indexedDB_itemsKeyed :
    ItemsKeyed IndexedDBLocalRepository.operations IndexedDBLocalRepository.key where
  getItem_putItem state item next put vaultId itemId := by
    change IndexedDBLocalRepository.putItem state item = .ok next at put
    unfold IndexedDBLocalRepository.putItem at put
    split at put <;> cases put
    constructor
    · intro same
      change (state.items.put _ item).get _ = _
      rw [same, KeyedStore.ObjectStore.get_put_self]
    · intro different
      exact KeyedStore.ObjectStore.get_put_of_ne state.items item different
  getItem_enqueue _ _ _ _ := rfl
  getItem_dequeue _ _ _ _ := rfl
  getItem_setCursor _ _ _ _ _ := rfl

section Operations

variable (repo : LocalRepository σ ItemRecord RecordConflictError) (slot : Id → Id → κ)

/-- Both sides of a conflict are in the repository: the attempted mutation, and the record that
the server answered with, if it did. -/
structure Retrievable (state : σ) (attempted : Mutation) (current : Option ItemRecord) : Prop where
  attempted : ∃ entry, repo.getQueuedMutation state attempted.mutationId = some entry ∧
    entry.mutation = attempted
  current : ∀ record, current = some record →
    repo.getItem state record.vaultId record.itemId = some record

def keepsSides (state : σ) (attempted : Mutation) (current : Option ItemRecord) :
    RepositoryCall Body → Prop
  | .dequeueMutation mutationId => mutationId ≠ attempted.mutationId
  | .enqueueMutation entry =>
      entry.mutationId = attempted.mutationId → entry.mutation = attempted
  | .putItem (.record item) =>
      (repo.putItem state item).isOk = true → ∀ record, current = some record →
        slot record.vaultId record.itemId = slot item.vaultId item.itemId → item = record
  | _ => True

variable {repo slot} {state : σ} {attempted : Mutation} {current : Option ItemRecord}

theorem perform_putRecord (item : ItemRecord) :
    ((RepositoryCall.putItem (Body.record item)).perform (bodyRepository repo) state).1 =
      match repo.putItem state item with
      | .ok next => next
      | .error _ => state := by
  simp only [RepositoryCall.perform, bodyRepository]
  cases repo.putItem state item <;> rfl

theorem Retrievable.of_same {next : σ} (retrievable : Retrievable repo state attempted current)
    (queue : repo.getQueuedMutation next attempted.mutationId =
      repo.getQueuedMutation state attempted.mutationId)
    (items : ∀ vaultId itemId, repo.getItem next vaultId itemId =
      repo.getItem state vaultId itemId) : Retrievable repo next attempted current := by
  constructor
  · rw [queue]
    exact retrievable.attempted
  · intro record there
    rw [items]
    exact retrievable.current record there

theorem retrievable_dequeue (lawful : repo.Lawful) (keyed : ItemsKeyed repo slot)
    (retrievable : Retrievable repo state attempted current) (mutationId : Id) :
    Retrievable repo (repo.dequeueMutation state mutationId) attempted current ↔
      mutationId ≠ attempted.mutationId := by
  constructor
  · rintro ⟨⟨entry, queued, _⟩, _⟩ same
    rw [lawful.getQueued_dequeue, if_pos same.symm] at queued
    cases queued
  · intro other
    apply retrievable.of_same
    · rw [lawful.getQueued_dequeue, if_neg (Ne.symm other)]
    · exact keyed.getItem_dequeue state mutationId

theorem retrievable_enqueue (lawful : repo.Lawful) (keyed : ItemsKeyed repo slot)
    (retrievable : Retrievable repo state attempted current) (entry : QueuedMutation) :
    Retrievable repo (repo.enqueueMutation state entry) attempted current ↔
      (entry.mutationId = attempted.mutationId → entry.mutation = attempted) := by
  constructor
  · rintro ⟨⟨stored, queued, mutation⟩, _⟩ same
    rw [lawful.getQueued_enqueue, if_pos same.symm] at queued
    cases queued
    exact mutation
  · intro unchanged
    constructor
    · rw [lawful.getQueued_enqueue]
      split
      · rename_i same
        exact ⟨entry, rfl, unchanged same.symm⟩
      · exact retrievable.attempted
    · intro record there
      rw [keyed.getItem_enqueue]
      exact retrievable.current record there

theorem retrievable_putItem (lawful : repo.Lawful) (keyed : ItemsKeyed repo slot)
    (retrievable : Retrievable repo state attempted current) {item : ItemRecord} {next : σ}
    (put : repo.putItem state item = .ok next) :
    Retrievable repo next attempted current ↔
      ∀ record, current = some record →
        slot record.vaultId record.itemId = slot item.vaultId item.itemId → item = record := by
  constructor
  · rintro ⟨_, stored⟩ record there same
    have found := stored record there
    rw [(keyed.getItem_putItem state item next put _ _).1 same] at found
    exact Option.some.inj found
  · intro unchanged
    constructor
    · rw [lawful.getQueued_putItem state item next put]
      exact retrievable.attempted
    · intro record there
      by_cases same : slot record.vaultId record.itemId = slot item.vaultId item.itemId
      · rw [(keyed.getItem_putItem state item next put _ _).1 same, unchanged record there same]
      · rw [(keyed.getItem_putItem state item next put _ _).2 same]
        exact retrievable.current record there

theorem retrievable_perform (lawful : repo.Lawful) (keyed : ItemsKeyed repo slot)
    (retrievable : Retrievable repo state attempted current) (operation : RepositoryCall Body) :
    Retrievable repo (operation.perform (bodyRepository repo) state).1 attempted current ↔
      keepsSides repo slot state attempted current operation := by
  cases operation with
  | dequeueMutation mutationId => exact retrievable_dequeue lawful keyed retrievable mutationId
  | enqueueMutation entry => exact retrievable_enqueue lawful keyed retrievable entry
  | putItem body =>
      cases body with
      | record item =>
          rw [perform_putRecord]
          simp only [keepsSides]
          cases put : repo.putItem state item with
          | error error =>
              refine iff_of_true retrievable ?_
              intro accepted
              cases accepted
          | ok next =>
              rw [retrievable_putItem lawful keyed retrievable put]
              exact ⟨fun kept _ => kept, fun kept => kept rfl⟩
      -- a body of another shape is refused
      | conflict => exact iff_of_true retrievable trivial
      | problem => exact iff_of_true retrievable trivial
  | setCursor vaultId cursor =>
      refine iff_of_true ?_ trivial
      apply retrievable.of_same
      · exact lawful.getQueued_setCursor state vaultId cursor _
      · exact keyed.getItem_setCursor state vaultId cursor
  | listQueuedMutations => exact iff_of_true retrievable trivial
  | getQueuedMutation mutationId => exact iff_of_true retrievable trivial
  | getCursor vaultId => exact iff_of_true retrievable trivial

end Operations

/-- `conflicts` are the attempted mutations that were answered with 409 and are not resolved yet,
with the current record that the last of these answers held; `unreplaced` the mutations that a
`resolveConflict` has taken off the queue while their replacement was not in it. -/
structure ConflictRun (σ : Type) where
  state : SyncRun σ Body (Option RecordConflictError)
  conflicts : List (Mutation × Option ItemRecord) := []
  unreplaced : List (Id × Mutation) := []

def currentOf : Reply Body → Option ItemRecord
  | .response _ (.json (.conflict _ current _)) => some current
  | _ => none

namespace ConflictRun

section Step

variable (repo : LocalRepository σ ItemRecord RecordConflictError) (backoff : BackoffOptions)
  (vaultOf : Body → Id)

def opens (run : ConflictRun σ) : SyncAction Body → Option (Mutation × Option ItemRecord)
  | .answer t reply _ =>
      match run.state.awaiting t, reply with
      | some (.posting push accessToken), .response status _ =>
          if hasToken accessToken && status == 409 then some (push.entry.mutation, currentOf reply)
          else none
      | _, _ => none
  | _ => none

def resolves (run : ConflictRun σ) : SyncAction Body → Option (Id × Mutation)
  | .perform t =>
      match run.state.awaiting t with
      | some (.enqueuing resolution replaces) => replaces.map (·, resolution)
      | _ => none
  | _ => none

/-- Nothing leaves the queue here, or its replacement is in it. -/
def replaced (state : σ) (oldMutationId : Id) (resolution : Mutation) : Bool :=
  (repo.getQueuedMutation state oldMutationId).isNone ||
    resolution.mutationId != oldMutationId &&
      (repo.getQueuedMutation state resolution.mutationId).any fun entry =>
        entry.mutation = resolution

def unreplacedBy (run : ConflictRun σ) : SyncAction Body → Option (Id × Mutation)
  | .perform t =>
      match run.state.awaiting t with
      | some (.dequeuingResolved oldMutationId resolution) =>
          if replaced repo run.state.repo oldMutationId resolution then none
          else some (oldMutationId, resolution)
      | _ => none
  | _ => none

/-- A further 409 for a mutation takes the place of the one before. -/
def stillOpen (run : ConflictRun σ) (action : SyncAction Body)
    (conflict : Mutation × Option ItemRecord) : Bool :=
  (run.opens action).all (fun opened => opened.1.mutationId != conflict.1.mutationId) &&
    (run.resolves action).all fun resolved => resolved.1 != conflict.1.mutationId

def step (run : ConflictRun σ) (action : SyncAction Body) : Option (ConflictRun σ) :=
  (run.state.step (bodyRepository repo) backoff vaultOf action).map fun next =>
    { state := next
      conflicts := (run.opens action).toList ++ run.conflicts.filter (run.stillOpen action)
      unreplaced :=
        (run.unreplacedBy repo action).toList ++
          run.unreplaced.filter fun left => some left != run.resolves action }

/-- Every open conflict can be read back from the repository, and no mutation has left the queue
through a resolution that is not in it. -/
structure Retained (run : ConflictRun σ) : Prop where
  sides : ∀ conflict ∈ run.conflicts, Retrievable repo run.state.repo conflict.1 conflict.2
  replaced : run.unreplaced = []

/-- The repository holds what a 409 answers with when it arrives, no operation removes a side of an
open conflict, and no resolution takes a mutation off the queue before its replacement is in it. -/
def keepsConflicts (slot : Id → Id → κ) (run : ConflictRun σ) : SyncAction Body → Prop
  | .answer t reply now =>
      ∀ conflict, run.opens (.answer t reply now) = some conflict →
        Retrievable repo run.state.repo conflict.1 conflict.2
  | .perform t =>
      ∀ task operation, run.state.tasks t = some ⟨task, none⟩ →
        task.operation backoff = some operation →
        (∀ conflict ∈ run.conflicts,
          (∀ resolution, task ≠ .enqueuing resolution (some conflict.1.mutationId)) →
          keepsSides repo slot run.state.repo conflict.1 conflict.2 operation) ∧
        ∀ oldMutationId resolution, task = .dequeuingResolved oldMutationId resolution →
          replaced repo run.state.repo oldMutationId resolution = true
  | _ => True

variable {repo backoff vaultOf} {slot : Id → Id → κ} {run next : ConflictRun σ}
  {action : SyncAction Body}

theorem retained_unchanged (retained : Retained repo run) {after : SyncRun σ Body _}
    (same : after.repo = run.state.repo) (opens : run.opens action = none)
    (unreplaced : run.unreplacedBy repo action = none) :
    Retained repo
      { state := after
        conflicts := (run.opens action).toList ++ run.conflicts.filter (run.stillOpen action)
        unreplaced :=
          (run.unreplacedBy repo action).toList ++
            run.unreplaced.filter fun left => some left != run.resolves action } := by
  constructor
  · intro conflict member
    rw [opens, Option.toList_none, List.nil_append] at member
    change Retrievable repo after.repo conflict.1 conflict.2
    rw [same]
    exact retained.sides conflict (List.mem_of_mem_filter member)
  · simp [unreplaced, retained.replaced]

theorem retained_answer (retained : Retained repo run) {t : Nat} {reply : Reply Body} {now : Nat}
    (stepped : run.step repo backoff vaultOf (.answer t reply now) = some next) :
    Retained repo next ↔ run.keepsConflicts repo backoff slot (.answer t reply now) := by
  rcases Option.map_eq_some_iff.mp stepped with ⟨after, moved, rfl⟩
  rcases (SyncRun.step_answer _ backoff vaultOf run.state t reply now after).mp moved with
    ⟨push, accessToken, found, rfl⟩
  constructor
  · intro kept conflict opened
    refine kept.sides conflict (List.mem_append_left _ ?_)
    rw [opened]
    exact List.mem_cons_self
  · intro held
    constructor
    · intro conflict member
      rcases List.mem_append.mp member with opened | before
      · exact held conflict (Option.mem_toList.mp opened)
      · exact retained.sides conflict (List.mem_of_mem_filter before)
    · have noRemoval : run.unreplacedBy repo (.answer t reply now) = none := rfl
      simp [noRemoval, retained.replaced]

theorem stillOpen_perform {t : Nat} {task : SyncTask Body}
    (found : run.state.tasks t = some ⟨task, none⟩) (conflict : Mutation × Option ItemRecord) :
    run.stillOpen (.perform t) conflict = true ↔
      ∀ resolution, task ≠ .enqueuing resolution (some conflict.1.mutationId) := by
  simp only [stillOpen, opens, resolves, SyncRun.awaiting_eq_some.mpr found, Option.all_none,
    Bool.true_and]
  cases task with
  | enqueuing resolution replaces =>
      cases replaces with
      | none => simp
      | some replaced => simp
  | _ => simp

theorem unreplacedBy_perform {t : Nat} {task : SyncTask Body}
    (found : run.state.tasks t = some ⟨task, none⟩) :
    run.unreplacedBy repo (.perform t) = none ↔
      ∀ oldMutationId resolution, task = .dequeuingResolved oldMutationId resolution →
        replaced repo run.state.repo oldMutationId resolution = true := by
  simp only [unreplacedBy, SyncRun.awaiting_eq_some.mpr found]
  cases task with
  | dequeuingResolved oldMutationId resolution => simp
  | _ => simp

theorem retained_perform (lawful : repo.Lawful) (keyed : ItemsKeyed repo slot)
    (retained : Retained repo run) {t : Nat}
    (stepped : run.step repo backoff vaultOf (.perform t) = some next) :
    Retained repo next ↔ run.keepsConflicts repo backoff slot (.perform t) := by
  rcases Option.map_eq_some_iff.mp stepped with ⟨after, moved, rfl⟩
  rcases (SyncRun.step_perform _ backoff vaultOf run.state t after).mp moved with
    ⟨task, operation, found, awaited, rfl⟩
  have only : run.keepsConflicts repo backoff slot (.perform t) ↔
      (∀ conflict ∈ run.conflicts, run.stillOpen (.perform t) conflict = true →
        keepsSides repo slot run.state.repo conflict.1 conflict.2 operation) ∧
      run.unreplacedBy repo (.perform t) = none := by
    simp only [keepsConflicts, stillOpen_perform found, unreplacedBy_perform found]
    constructor
    · intro kept
      exact kept task operation found awaited
    · intro kept other operation' found' awaited'
      rw [found] at found'
      cases found'
      rw [awaited] at awaited'
      cases awaited'
      exact kept
  rw [only]
  constructor
  · intro kept
    constructor
    · intro conflict member still
      rw [← retrievable_perform lawful keyed (retained.sides conflict member)]
      exact kept.sides conflict
        (List.mem_append_right _ (List.mem_filter.mpr ⟨member, still⟩))
    · have empty := kept.replaced
      rw [List.append_eq_nil_iff, Option.toList_eq_nil_iff] at empty
      exact empty.1
  · rintro ⟨sides, removed⟩
    constructor
    · intro conflict member
      rcases List.mem_filter.mp member with ⟨member, still⟩
      exact (retrievable_perform lawful keyed (retained.sides conflict member) operation).mpr
        (sides conflict member still)
    · simp [removed, retained.replaced]

theorem retained_step (lawful : repo.Lawful) (keyed : ItemsKeyed repo slot)
    (retained : Retained repo run) (stepped : run.step repo backoff vaultOf action = some next) :
    Retained repo next ↔ run.keepsConflicts repo backoff slot action := by
  cases action with
  | perform t => exact retained_perform lawful keyed retained stepped
  | answer t reply now => exact retained_answer retained stepped
  | _ =>
      rcases Option.map_eq_some_iff.mp stepped with ⟨after, moved, rfl⟩
      refine iff_of_true (retained_unchanged retained ?_ rfl rfl) trivial
      rcases SyncRun.step_repo _ backoff vaultOf run.state _ after moved with
        same | ⟨_, _, other, _⟩
      · exact same
      · cases other

/-- In every interleaving of the engine's calls, failing operations and restarts included, open
conflicts stay retrievable throughout exactly when every step keeps them. -/
theorem conflicts_retained (lawful : repo.Lawful) (keyed : ItemsKeyed repo slot)
    (backoff : BackoffOptions) (vaultOf : Body → Id) (start : σ)
    (actions : List (SyncAction Body)) :
    Always (step repo backoff vaultOf) (Retained repo) { state := .initial start } actions ↔
      Every (step repo backoff vaultOf) (keepsConflicts repo backoff slot)
        { state := .initial start } actions := by
  apply always_iff_every (fun _ => True)
  · intro _ _ _ _ _
    trivial
  · intro run action next _ retained stepped
    exact retained_step lawful keyed retained stepped
  · trivial
  · constructor
    · intro conflict member
      cases member
    · rfl

end Step

section Samples

def vaultOfBody : Body → Id
  | .record item => item.vaultId
  | _ => ""

def sampleConflict : Reply Body :=
  .response 409 (.json (.conflict "m1" (sampleRecord 2) (sampleEntry "m1").mutation))

def conflictThenRestart : List (SyncAction Body) :=
  [.call 1 (.pushOne (sampleEntry "m1")), .perform 1, .resume 1 (some "token"),
    .answer 1 sampleConflict 0, .perform 1, .restart]

def pulledRecord : InMemoryLocalRepository :=
  { InMemoryLocalRepository.empty with
    items := (InMemoryLocalRepository.empty.items.set
      (InMemoryLocalRepository.key "vault" "item") (sampleRecord 2)) }

theorem pulled_conflict_retained :
    Always (step InMemoryLocalRepository.operations defaultBackoff vaultOfBody)
      (Retained InMemoryLocalRepository.operations) { state := .initial pulledRecord }
      conflictThenRestart := by
  refine (conflicts_retained InMemoryLocalRepository.operations_lawful inMemory_itemsKeyed
    defaultBackoff vaultOfBody pulledRecord conflictThenRestart).mpr ?_
  intro called stepped
  cases stepped
  refine ⟨trivial, ?_⟩
  intro syncing stepped
  cases stepped
  refine ⟨?_, ?_⟩
  · intro task operation found _
    cases found
    exact ⟨(fun conflict member => nomatch member), (fun _ _ other => nomatch other)⟩
  intro posted stepped
  cases stepped
  refine ⟨trivial, ?_⟩
  intro answered stepped
  cases stepped
  refine ⟨?_, ?_⟩
  · intro conflict opened
    cases opened
    constructor
    · exact ⟨{ sampleEntry "m1" with state := .syncing }, by decide +kernel, rfl⟩
    · intro record there
      cases there
      decide +kernel
  intro marked stepped
  cases stepped
  refine ⟨?_, fun _ _ => ⟨trivial, trivial⟩⟩
  intro task operation found awaited
  cases found
  cases awaited
  refine ⟨?_, (fun _ _ other => nomatch other)⟩
  -- the mark leaves the attempted mutation in its entry
  intro conflict member _
  rcases List.mem_singleton.mp member with rfl
  exact fun _ => rfl

/-- Otherwise what the server answered with is nowhere in the repository. -/
theorem current_record_not_retained :
    ¬ ∀ (start : InMemoryLocalRepository) (actions : List (SyncAction Body)),
      Always (step InMemoryLocalRepository.operations defaultBackoff vaultOfBody)
        (Retained InMemoryLocalRepository.operations) { state := .initial start } actions := by
  intro always
  have retained := (always .empty conflictThenRestart).at_end (run_reached (by decide +kernel))
  have stored := (retained.sides ((sampleEntry "m1").mutation, some (sampleRecord 2))
    (by decide +kernel)).current (sampleRecord 2) rfl
  exact absurd stored (by decide +kernel)

end Samples

end ConflictRun

end ZenPass.Web
