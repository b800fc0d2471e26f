import ZenPass.Web.SyncTasks

set_option autoImplicit false

namespace ZenPass.Web

open Sdk Transition

variable {σ ρ ε : Type}

def toPush (now : Nat) (entries : List QueuedMutation) : List Id :=
  (entries.filter fun entry => !skipped entry now).map QueuedMutation.mutationId

def Push.later (push : Push) : List Id :=
  match push.listing with
  | none => []
  | some (now, rest) => toPush now rest

/-- The mutations that the call may write, the operation it awaits included. -/
def SyncTask.ahead : SyncTask ρ → List Id
  | .markingSyncing push | .markingConflict push | .markingRetryable push _ =>
      push.entry.mutationId :: push.later
  | .posting push accessToken =>
      if hasToken accessToken then push.entry.mutationId :: push.later else []
  | .puttingItem push _ | .dequeuing push => push.later
  | .markingDirty push => [push.entry.mutationId]
  | .dequeuingResolved _ resolution => [resolution.mutationId]
  | .enqueuing mutation _ => [mutation.mutationId]
  | _ => []

def SyncTask.aheadAfter : SyncTask ρ → Settlement ε → List Id
  | .listing now, .queue entries => toPush now entries
  -- A failure of the request is going to write the entry back.
  | .markingSyncing push, _ => push.entry.mutationId :: push.later
  | .puttingItem _ _, .rejected _ => []
  | .puttingItem push _, _ | .dequeuing push, _ | .markingConflict push, _
  | .markingRetryable push _, _ => push.later
  | .dequeuingResolved _ resolution, _ => [resolution.mutationId]
  | _, _ => []

def Suspended.ahead (suspended : Suspended ρ ε) : List Id :=
  match suspended.settled with
  | none => suspended.task.ahead
  | some settled => suspended.task.aheadAfter settled

theorem ahead_nextEntry (now : Nat) (entries : List QueuedMutation) (task : SyncTask ρ)
    (next : nextEntry now entries = some task) : task.ahead = toPush now entries := by
  induction entries with
  | nil => cases next
  | cons entry rest ih =>
      unfold nextEntry at next
      cases skip : skipped entry now with
      | true =>
          rw [skip] at next
          rw [ih next, toPush, toPush, List.filter_cons_of_neg (by simp [skip])]
      | false =>
          rw [skip] at next
          cases next
          rw [toPush, List.filter_cons_of_pos (by simp [skip])]
          rfl

theorem ahead_pushNext (push : Push) (task : SyncTask ρ) (next : push.next = some task) :
    task.ahead = push.later := by
  unfold Push.next at next
  unfold Push.later
  cases listing : push.listing with
  | none =>
      rw [listing] at next
      cases next
  | some rest =>
      rw [listing] at next
      exact ahead_nextEntry rest.1 rest.2 task next

theorem ahead_answered (push : Push) (now : Nat) (accessToken : Option String) (reply : Reply ρ)
    (task : SyncTask ρ)
    (next : push.answered now (mutateItem accessToken reply : Except (Thrown ρ ε) _) = some task) :
    ∀ m ∈ task.ahead, m ∈ (SyncTask.posting push accessToken : SyncTask ρ).ahead := by
  cases token : hasToken accessToken with
  | false =>
      -- without a token the call throws
      simp only [mutateItem, request, token, Bool.false_eq_true, if_false] at next
      cases next
  | true =>
      have kept : (SyncTask.posting push accessToken : SyncTask ρ).ahead =
          push.entry.mutationId :: push.later := by
        simp [SyncTask.ahead, token]
      rw [kept]
      generalize (mutateItem accessToken reply : Except (Thrown ρ ε) _) = outcome at next
      intro m member
      rcases outcome with thrown | ⟨_ | item⟩ | conflict
      · cases thrown <;> cases next
        · exact member
        · rw [List.mem_singleton.mp member]
          exact List.mem_cons_self
      · cases next
      · cases next
        exact List.mem_cons_of_mem _ member
      · cases next
        exact member

theorem ahead_nextPage (pull : Pull) (task : SyncTask ρ) (next : pull.nextPage = some task) :
    task.ahead = [] := by
  unfold Pull.nextPage at next
  split at next <;> cases next
  rfl

theorem ahead_nextChange (vaultOf : ρ → Id) (pull : Pull) (page : ChangePage ρ) (changes : List ρ)
    (task : SyncTask ρ) (next : pull.nextChange vaultOf page changes = some task) :
    task.ahead = [] := by
  cases changes with
  | nil =>
      cases next
      rfl
  | cons change rest =>
      simp only [Pull.nextChange] at next
      split at next
      · cases next
      · cases next
        rfl

theorem ahead_afterPage (pull : Pull) (page : ChangePage ρ) (task : SyncTask ρ)
    (next : pull.afterPage page = some task) : task.ahead = [] := by
  unfold Pull.afterPage at next
  split at next
  · exact ahead_nextPage _ task next
  · cases next

/-- What a resumed call may yet write, and has sent, was ahead of it before. -/
structure FollowsFrom (progress : SyncProgress ρ) (ahead : List Id) : Prop where
  task : ∀ next, progress.task = some next → ∀ m ∈ next.ahead, m ∈ ahead
  request : ∀ request, progress.request = some request → request.mutationId ∈ ahead

theorem followsFrom_ended (undone : Option Id) (ahead : List Id) :
    FollowsFrom ({ task := none, undone } : SyncProgress ρ) ahead := by
  constructor
  · intro next there
    cases there
  · intro request there
    cases there

theorem followsFrom_task (after : Option (SyncTask ρ)) (ahead : List Id)
    (within : ∀ next, after = some next → ∀ m ∈ next.ahead, m ∈ ahead) :
    FollowsFrom { task := after } ahead := by
  constructor
  · exact within
  · intro request there
    cases there

theorem followsFrom_idle (after : Option (SyncTask ρ)) (ahead : List Id)
    (idle : ∀ next, after = some next → next.ahead = []) :
    FollowsFrom { task := after } ahead := by
  apply followsFrom_task
  intro next there m member
  rw [idle next there] at member
  cases member

theorem followsFrom_next (push : Push) :
    FollowsFrom ({ task := push.next } : SyncProgress ρ) push.later := by
  apply followsFrom_task
  intro next there m member
  rw [ahead_pushNext push next there] at member
  exact member

theorem followsFrom_posting (push : Push) (accessToken : Option String) :
    FollowsFrom
      ({ task := some (.posting push accessToken)
         request := if hasToken accessToken then some push.entry.mutation else none } :
        SyncProgress ρ)
      (push.entry.mutationId :: push.later) := by
  constructor
  · intro next there m member
    cases there
    simp only [SyncTask.ahead] at member
    split at member
    · exact member
    · cases member
  · intro request there
    simp only at there
    split at there <;> cases there
    exact List.mem_cons_self

theorem ahead_resume (vaultOf : ρ → Id) (accessToken : Option String) (task : SyncTask ρ)
    (settled : Settlement ε) (progress : SyncProgress ρ)
    (resumed : task.resume vaultOf accessToken settled = some progress) :
    FollowsFrom progress (task.aheadAfter settled) := by
  unfold SyncTask.resume at resumed
  -- one continuation of the source after the other
  split at resumed <;> cases resumed
  · rename_i now entries
    change FollowsFrom _ (toPush now entries)
    apply followsFrom_task
    intro next there m member
    rw [ahead_nextEntry now entries next there] at member
    exact member
  · rename_i push
    exact followsFrom_posting push accessToken
  · rename_i push _
    change FollowsFrom _ push.later
    apply followsFrom_task
    intro next there m member
    cases there
    exact member
  · rename_i push
    exact followsFrom_next push
  · rename_i push
    exact followsFrom_next push
  · rename_i push _
    exact followsFrom_next push
  · exact followsFrom_ended none _
  · refine followsFrom_idle _ _ ?_
    intro next there
    split at there <;> cases there
    rfl
  · exact followsFrom_ended none _
  · exact followsFrom_ended _ _
  · rename_i resolution
    change FollowsFrom _ [resolution.mutationId]
    apply followsFrom_task
    intro next there m member
    cases there
    exact member
  · exact followsFrom_ended none _
  · exact followsFrom_idle _ _ fun next there => ahead_nextPage _ next there
  · exact followsFrom_idle _ _ fun next there => ahead_nextChange vaultOf _ _ _ next there
  · exact followsFrom_idle _ _ fun next there => ahead_afterPage _ _ next there
  · exact followsFrom_ended none _
  · exact followsFrom_ended none _

section Operations

variable (repo : LocalRepository σ ρ ε) (backoff : BackoffOptions) (vaultOf : ρ → Id)

def QueueKeyed (state : σ) : Prop :=
  ∀ m entry, repo.getQueuedMutation state m = some entry → entry.mutationId = m

variable {repo}

theorem queueKeyed_perform (lawful : repo.Lawful) {state : σ} (keyed : QueueKeyed repo state)
    (operation : RepositoryCall ρ) : QueueKeyed repo (operation.perform repo state).1 := by
  intro m entry queued
  cases operation with
  | enqueueMutation added =>
      simp only [RepositoryCall.perform, lawful.getQueued_enqueue] at queued
      split at queued
      · rename_i same
        cases queued
        exact same.symm
      · exact keyed m entry queued
  | dequeueMutation removed =>
      simp only [RepositoryCall.perform, lawful.getQueued_dequeue] at queued
      split at queued
      · cases queued
      · exact keyed m entry queued
  | putItem item =>
      simp only [RepositoryCall.perform] at queued
      split at queued
      · rename_i next put
        rw [lawful.getQueued_putItem state item next put] at queued
        exact keyed m entry queued
      · exact keyed m entry queued
  | setCursor vaultId cursor =>
      simp only [RepositoryCall.perform, lawful.getQueued_setCursor] at queued
      exact keyed m entry queued
  | listQueuedMutations => exact keyed m entry queued
  | getQueuedMutation mutationId => exact keyed m entry queued
  | getCursor vaultId => exact keyed m entry queued

theorem unqueued_perform (lawful : repo.Lawful) {state : σ} {task : SyncTask ρ}
    {operation : RepositoryCall ρ} (awaited : task.operation backoff = some operation) {m : Id}
    (unqueued : repo.getQueuedMutation state m = none) (notAhead : m ∉ task.ahead) :
    repo.getQueuedMutation (operation.perform repo state).1 m = none := by
  cases operation with
  | enqueueMutation added =>
      have ahead : added.mutationId ∈ task.ahead := by
        cases task <;> cases awaited <;> exact List.mem_cons_self
      simp only [RepositoryCall.perform, lawful.getQueued_enqueue]
      rw [if_neg, unqueued]
      rintro rfl
      exact notAhead ahead
  | dequeueMutation removed =>
      simp only [RepositoryCall.perform, lawful.getQueued_dequeue]
      split
      · rfl
      · exact unqueued
  | putItem item =>
      simp only [RepositoryCall.perform]
      split
      · rename_i next put
        rw [lawful.getQueued_putItem state item next put]
        exact unqueued
      · exact unqueued
  | setCursor vaultId cursor =>
      simp only [RepositoryCall.perform, lawful.getQueued_setCursor]
      exact unqueued
  | listQueuedMutations => exact unqueued
  | getQueuedMutation mutationId => exact unqueued
  | getCursor vaultId => exact unqueued

theorem ahead_perform (lawful : repo.Lawful) {state : σ} (keyed : QueueKeyed repo state)
    {task : SyncTask ρ} {operation : RepositoryCall ρ}
    (awaited : task.operation backoff = some operation) {m : Id}
    (unqueued : repo.getQueuedMutation state m = none) (notAhead : m ∉ task.ahead) :
    m ∉ task.aheadAfter (operation.perform repo state).2 := by
  cases task with
  | listing now =>
      cases awaited
      change m ∉ toPush now (repo.listQueuedMutations state)
      intro member
      rcases List.mem_map.mp member with ⟨entry, listed, rfl⟩
      rw [List.mem_filter, lawful.mem_listQueued] at listed
      rcases listed.1 with ⟨key, queued⟩
      rw [keyed key entry queued, queued] at unqueued
      cases unqueued
  | puttingItem push item =>
      cases awaited
      simp only [RepositoryCall.perform]
      split
      · exact notAhead
      · exact List.not_mem_nil
  | markingConflict push => exact fun later => notAhead (List.mem_cons_of_mem _ later)
  | markingRetryable push now => exact fun later => notAhead (List.mem_cons_of_mem _ later)
  | markingSyncing push => exact notAhead
  | dequeuing push => exact notAhead
  | dequeuingResolved oldMutationId resolution => exact notAhead
  | _ => exact List.not_mem_nil

end Operations

/-- The server has not applied the mutation, no request is on its way to it, and no call under way
is going to queue it. -/
structure Unclaimed (run : SyncRun σ ρ ε) (m : Id) : Prop where
  applied : m ∉ run.applied
  requests : ∀ request ∈ run.requests, request.mutationId ≠ m
  tasks : ∀ t suspended, run.tasks t = some suspended → m ∉ suspended.ahead

structure Gone (repo : LocalRepository σ ρ ε) (run : SyncRun σ ρ ε) (m : Id) : Prop
    extends Unclaimed run m where
  queue : repo.getQueuedMutation run.repo m = none

section Step

variable {repo : LocalRepository σ ρ ε} {backoff : BackoffOptions} {vaultOf : ρ → Id}
  {run next : SyncRun σ ρ ε} {m : Id}

theorem Gone.suspend (gone : Gone repo run m) (t : Nat) (task : Option (SyncTask ρ))
    (notAhead : ∀ suspended, task = some suspended → m ∉ suspended.ahead) :
    Gone repo (run.suspend t task) m where
  applied := gone.applied
  requests := gone.requests
  queue := gone.queue
  tasks := by
    intro other suspended found
    rcases run.suspend_tasks t task other suspended found with ⟨next, there, rfl⟩ | before
    · exact notAhead next there
    · exact gone.tasks other suspended before

theorem Gone.performed (lawful : repo.Lawful) (keyed : QueueKeyed repo run.repo)
    (gone : Gone repo run m) {t : Nat} {task : SyncTask ρ} {operation : RepositoryCall ρ}
    (found : run.tasks t = some ⟨task, none⟩) (awaited : task.operation backoff = some operation) :
    Gone repo (run.performed repo t task operation) m where
  applied := gone.applied
  requests := gone.requests
  queue := unqueued_perform backoff lawful awaited gone.queue (gone.tasks t _ found)
  tasks := by
    intro other suspended there
    rcases run.performed_tasks t task operation other suspended there with rfl | before
    · exact ahead_perform backoff lawful keyed awaited gone.queue (gone.tasks t _ found)
    · exact gone.tasks other suspended before

theorem Gone.step (lawful : repo.Lawful) (keyed : QueueKeyed repo run.repo)
    (gone : Gone repo run m) {action : SyncAction ρ}
    (notBroughtIn : ∀ t call, action = .call t call → m ∉ (call.start : SyncTask ρ).ahead)
    (stepped : run.step repo backoff vaultOf action = some next) : Gone repo next m := by
  cases action with
  | call t call =>
      simp only [SyncRun.step] at stepped
      split at stepped <;> cases stepped
      refine gone.suspend t _ ?_
      rintro suspended ⟨⟩
      exact notBroughtIn t call rfl
  | perform t =>
      rcases (SyncRun.step_perform repo backoff vaultOf run t next).mp stepped with
        ⟨task, operation, found, awaited, rfl⟩
      exact gone.performed lawful keyed found awaited
  | fail t =>
      rw [SyncRun.step_fail repo backoff vaultOf run t next stepped]
      refine gone.suspend t none ?_
      intro suspended there
      cases there
  | resume t accessToken =>
      rcases (SyncRun.step_resume repo backoff vaultOf run t accessToken next).mp stepped with
        ⟨task, settled, progress, found, resumed, rfl⟩
      have notAhead : m ∉ task.aheadAfter settled := gone.tasks t _ found
      have follows := ahead_resume vaultOf accessToken task settled progress resumed
      have suspended := gone.suspend t progress.task fun after there member =>
        notAhead (follows.task after there m member)
      refine ⟨⟨suspended.applied, ?_, suspended.tasks⟩, suspended.queue⟩
      intro request member
      rcases List.mem_append.mp member with sent | before
      · rintro rfl
        exact notAhead (follows.request request (Option.mem_toList.mp sent))
      · exact gone.requests request before
  | answer t reply now =>
      rcases (SyncRun.step_answer repo backoff vaultOf run t reply now next).mp stepped with
        ⟨push, accessToken, found, rfl⟩
      refine gone.suspend t _ fun after there member => gone.tasks t _ found ?_
      exact ahead_answered push now accessToken reply after there m member
  | page t page =>
      rcases SyncRun.step_page repo backoff vaultOf run t page next stepped with ⟨pull, found, rfl⟩
      refine gone.suspend t _ fun after there member => ?_
      rcases Option.bind_eq_some_iff.mp there with ⟨page, _, there⟩
      rw [ahead_nextChange vaultOf pull page page.changes after there] at member
      cases member
  | serverApplies mutation =>
      simp only [SyncRun.step] at stepped
      split at stepped <;> cases stepped
      rename_i sent
      refine ⟨⟨?_, ?_, gone.tasks⟩, gone.queue⟩
      · intro member
        rcases List.mem_cons.mp member with rfl | before
        · exact gone.requests mutation sent rfl
        · exact gone.applied before
      · exact fun request member => gone.requests request (List.mem_of_mem_erase member)
  | requestEnds mutation =>
      simp only [SyncRun.step] at stepped
      split at stepped <;> cases stepped
      refine ⟨⟨gone.applied, ?_, gone.tasks⟩, gone.queue⟩
      exact fun request member => gone.requests request (List.mem_of_mem_erase member)
  | restart =>
      cases stepped
      refine ⟨⟨gone.applied, gone.requests, ?_⟩, gone.queue⟩
      intro t suspended there
      cases there

theorem queueKeyed_step (lawful : repo.Lawful) (keyed : QueueKeyed repo run.repo)
    {action : SyncAction ρ} (stepped : run.step repo backoff vaultOf action = some next) :
    QueueKeyed repo next.repo := by
  rcases SyncRun.step_repo repo backoff vaultOf run action next stepped with
    same | ⟨_, _, _, changed⟩
  · rw [same]
    exact keyed
  · rw [changed]
    exact queueKeyed_perform lawful keyed _

end Step

structure UndoRun (σ ρ ε : Type) where
  state : SyncRun σ ρ ε
  removed : List Id := []
  undone : List Id := []

namespace UndoRun

section Step

variable (repo : LocalRepository σ ρ ε) (backoff : BackoffOptions) (vaultOf : ρ → Id)

def dequeues (run : UndoRun σ ρ ε) : SyncAction ρ → Option Id
  | .perform t =>
      match run.state.awaiting t with
      | some (.dequeuingUndo mutationId) => some mutationId
      | _ => none
  | _ => none

def returns (run : UndoRun σ ρ ε) : SyncAction ρ → Option Id
  | .resume t accessToken =>
      match run.state.tasks t with
      | some ⟨task, some settled⟩ =>
          (task.resume vaultOf accessToken settled).bind SyncProgress.undone
      | _ => none
  | _ => none

def step (run : UndoRun σ ρ ε) (action : SyncAction ρ) : Option (UndoRun σ ρ ε) :=
  (run.state.step repo backoff vaultOf action).map fun next =>
    { state := next
      removed := (run.dequeues action).toList ++ run.removed
      undone := (run.returns vaultOf action).toList ++ run.undone }

/-- A mutation whose undo has returned `true` is neither applied at the server nor queued. -/
def UndoFinal (run : UndoRun σ ρ ε) : Prop :=
  ∀ m ∈ run.undone, m ∉ run.state.applied ∧ repo.getQueuedMutation run.state.repo m = none

/-- An undo dequeues only a mutation that is nowhere but in the queue, and what an undo has
dequeued is not handed to the engine again. -/
def undoesUnclaimed (run : UndoRun σ ρ ε) : SyncAction ρ → Prop
  | .call _ call => ∀ m ∈ (call.start : SyncTask ρ).ahead, m ∉ run.removed
  | .perform t => ∀ m, run.state.tasks t = some ⟨.dequeuingUndo m, none⟩ → Unclaimed run.state m
  | _ => True

structure Valid (run : UndoRun σ ρ ε) : Prop where
  keyed : QueueKeyed repo run.state.repo
  gone : ∀ m ∈ run.removed, Gone repo run.state m
  returning : ∀ t m settled, run.state.tasks t = some ⟨.dequeuingUndo m, some settled⟩ →
    m ∈ run.removed
  returned : ∀ m ∈ run.undone, m ∈ run.removed

variable {repo backoff vaultOf} {run next : UndoRun σ ρ ε} {action : SyncAction ρ}

theorem mem_dequeues (run : UndoRun σ ρ ε) (action : SyncAction ρ) (m : Id)
    (dequeued : m ∈ (run.dequeues action).toList) :
    ∃ t, action = .perform t ∧ run.state.tasks t = some ⟨.dequeuingUndo m, none⟩ := by
  rw [Option.mem_toList] at dequeued
  unfold dequeues at dequeued
  split at dequeued
  · rename_i t
    split at dequeued
    · rename_i mutationId found
      cases dequeued
      exact ⟨t, rfl, SyncRun.awaiting_eq_some.mp found⟩
    · cases dequeued
  · cases dequeued

theorem undone_resume {accessToken : Option String} {task : SyncTask ρ} {settled : Settlement ε}
    {progress : SyncProgress ρ} (resumed : task.resume vaultOf accessToken settled = some progress)
    {m : Id} (undone : progress.undone = some m) : task = .dequeuingUndo m := by
  unfold SyncTask.resume at resumed
  split at resumed <;> cases resumed <;> cases undone
  rfl

theorem mem_returns (run : UndoRun σ ρ ε) (action : SyncAction ρ) (m : Id)
    (returned : m ∈ (run.returns vaultOf action).toList) :
    ∃ t settled, run.state.tasks t = some ⟨.dequeuingUndo m, some settled⟩ := by
  rw [Option.mem_toList] at returned
  unfold returns at returned
  split at returned
  · rename_i t accessToken
    split at returned
    · rename_i task settled found
      rcases Option.bind_eq_some_iff.mp returned with ⟨progress, resumed, undone⟩
      rw [undone_resume resumed undone] at found
      exact ⟨t, settled, found⟩
    · cases returned
  · cases returned

theorem dequeues_perform {t : Nat} {m : Id}
    (found : run.state.tasks t = some ⟨.dequeuingUndo m, none⟩) :
    run.dequeues (.perform t : SyncAction ρ) = some m := by
  simp only [dequeues, SyncRun.awaiting_eq_some.mpr found]

theorem gone_dequeued (lawful : repo.Lawful) {t : Nat} {m : Id}
    (unclaimed : Unclaimed run.state m) :
    Gone repo (run.state.performed repo t (.dequeuingUndo m) (.dequeueMutation m)) m where
  applied := unclaimed.applied
  requests := unclaimed.requests
  queue := by
    change repo.getQueuedMutation (repo.dequeueMutation run.state.repo m) m = none
    rw [lawful.getQueued_dequeue]
    exact if_pos rfl
  tasks := by
    intro other suspended there
    rcases run.state.performed_tasks t _ _ other suspended there with rfl | before
    · exact List.not_mem_nil
    · exact unclaimed.tasks other suspended before

theorem valid_step (lawful : repo.Lawful) (valid : Valid repo run)
    (unclaimed : run.undoesUnclaimed action)
    (stepped : run.step repo backoff vaultOf action = some next) : Valid repo next := by
  rcases Option.map_eq_some_iff.mp stepped with ⟨after, moved, rfl⟩
  have notBroughtIn (m : Id) (removed : m ∈ run.removed) :
      ∀ t call, action = .call t call → m ∉ (call.start : SyncTask ρ).ahead := by
    rintro t call rfl member
    exact unclaimed m member removed
  constructor
  · exact queueKeyed_step lawful valid.keyed moved
  · intro m member
    rcases List.mem_append.mp member with dequeued | before
    · rcases run.mem_dequeues action m dequeued with ⟨t, rfl, found⟩
      rcases (SyncRun.step_perform repo backoff vaultOf run.state t after).mp moved with
        ⟨task, operation, found', awaited, rfl⟩
      rw [found] at found'
      cases found'
      cases awaited
      exact gone_dequeued lawful (unclaimed m found)
    · exact (valid.gone m before).step lawful valid.keyed (notBroughtIn m before) moved
  · intro t m settled found
    rcases SyncRun.step_settled repo backoff vaultOf run.state action after moved t _ settled found
      with before | ⟨rfl, there⟩
    · exact List.mem_append_right _ (valid.returning t m settled before)
    · apply List.mem_append_left
      rw [run.dequeues_perform there]
      exact List.mem_cons_self
  · intro m member
    apply List.mem_append_right
    rcases List.mem_append.mp member with returned | before
    · rcases run.mem_returns action m returned with ⟨t, settled, found⟩
      exact valid.returning t m settled found
    · exact valid.returned m before

/-- In every interleaving of undos with the calls of the engine, a server that applies or refuses
what it gets, and a network that loses, delays or answers at will: where undos dequeue only
mutations that are nowhere but in the queue, they are final. -/
theorem undo_final (lawful : repo.Lawful) (backoff : BackoffOptions) (vaultOf : ρ → Id)
    (start : σ) (keyed : QueueKeyed repo start) (actions : List (SyncAction ρ))
    (unclaimed : Every (step repo backoff vaultOf) undoesUnclaimed { state := .initial start }
      actions) :
    Always (step repo backoff vaultOf) (UndoFinal repo) { state := .initial start } actions := by
  apply always_of_every (fun _ _ _ valid condition stepped => valid_step lawful valid condition
    stepped) _ _ unclaimed
  · intro run valid m member
    have gone := valid.gone m (valid.returned m member)
    exact ⟨gone.applied, gone.queue⟩
  · constructor
    · exact keyed
    · intro m member
      cases member
    · intro t m settled found
      cases found
    · intro m member
      cases member

end Step

section Samples

def sampleUndo (start : InMemoryLocalRepository) :
    UndoRun InMemoryLocalRepository ItemRecord RecordConflictError :=
  { state := .initial start }

def sampleStep :
    UndoRun InMemoryLocalRepository ItemRecord RecordConflictError → SyncAction ItemRecord →
      Option (UndoRun InMemoryLocalRepository ItemRecord RecordConflictError) :=
  step InMemoryLocalRepository.operations defaultBackoff ItemRecord.vaultId

def queuedTombstone : QueuedMutation :=
  { sampleEntry "m1" with mutation := { (sampleEntry "m1").mutation with deleted := true } }

def queueOfTombstone : InMemoryLocalRepository :=
  InMemoryLocalRepository.operations.enqueueMutation .empty queuedTombstone

theorem queueOfTombstone_keyed :
    QueueKeyed InMemoryLocalRepository.operations queueOfTombstone := by
  apply queueKeyed_perform InMemoryLocalRepository.operations_lawful _
    (.enqueueMutation queuedTombstone)
  intro m entry queued
  cases queued

def undoAlone : List (SyncAction ItemRecord) :=
  [.call 2 (.undoDeleteIfLocal "m1"), .perform 2, .resume 2 none, .perform 2, .resume 2 none]

theorem undo_alone_final :
    (reached sampleStep (sampleUndo queueOfTombstone) undoAlone).undone = ["m1"] ∧
      Always sampleStep (UndoFinal InMemoryLocalRepository.operations)
        (sampleUndo queueOfTombstone) undoAlone := by
  refine ⟨by decide +kernel, undo_final InMemoryLocalRepository.operations_lawful defaultBackoff
    ItemRecord.vaultId queueOfTombstone queueOfTombstone_keyed undoAlone ?_⟩
  intro called stepped
  cases stepped
  refine ⟨(fun m member => nomatch member), ?_⟩
  intro reading stepped
  cases stepped
  refine ⟨(fun m found => by cases found), ?_⟩
  intro dequeuing stepped
  cases stepped
  refine ⟨trivial, ?_⟩
  intro dequeued stepped
  refine ⟨?_, fun _ _ => ⟨trivial, trivial⟩⟩
  intro m _
  refine ⟨List.not_mem_nil, nofun, ?_⟩
  intro t suspended there
  -- the undo is the only call
  by_cases same : t = 2
  · subst same
    cases there
    exact List.not_mem_nil
  · change Function.update (Function.update (Function.update (fun _ => none) 2 _) 2 _) 2 _ t =
      some suspended at there
    simp only [Function.update_of_ne same] at there
    cases there

def undoDuringPush : List (SyncAction ItemRecord) :=
  [.call 1 (.pushAll 0), .perform 1, .resume 1 none, .perform 1, .resume 1 (some "token")] ++
    undoAlone ++ [.serverApplies queuedTombstone.mutation]

theorem undo_during_push_not_final :
    ¬ ∀ (start : InMemoryLocalRepository) (actions : List (SyncAction ItemRecord)),
      QueueKeyed InMemoryLocalRepository.operations start →
      Always sampleStep (UndoFinal InMemoryLocalRepository.operations) (sampleUndo start)
        actions := by
  intro always
  have final := (always queueOfTombstone undoDuringPush queueOfTombstone_keyed).at_end
    (run_reached (by decide +kernel))
  exact absurd (final "m1" (by decide +kernel)).1 (by decide +kernel)

end Samples

end UndoRun

end ZenPass.Web
