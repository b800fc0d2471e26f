import ZenPass.Lib.Transition
import ZenPass.Sdk.SyncEngine

set_option autoImplicit false

-- Calls of the engine, and of the undo that shares its queue, run interleaved over one repository.
-- An awaited operation takes effect at some point between its call and the resumption of its
-- caller.

namespace ZenPass.Web

open Sdk Transition

inductive RepositoryCall (ρ : Type) where
  | listQueuedMutations
  | getQueuedMutation (mutationId : Id)
  | enqueueMutation (entry : QueuedMutation)
  | dequeueMutation (mutationId : Id)
  | putItem (item : ρ)
  | getCursor (vaultId : Id)
  | setCursor (vaultId : Id) (cursor : String)

inductive Settlement (ε : Type) where
  | done
  | queue (entries : List QueuedMutation)
  | queued (entry : Option QueuedMutation)
  | cursor (cursor : Option String)
  | rejected (error : ε)

/-- A run of `pushOne`; `listing` is `now` and what is left of the loop of the `pushAll` around
it. -/
structure Push where
  entry : QueuedMutation
  listing : Option (Nat × List QueuedMutation) := none

structure Pull where
  vaultId : Id
  cursor : Option String
  pagesLeft : Nat

inductive SyncTask (ρ : Type) where
  | listing (now : Nat)
  | markingSyncing (push : Push)
  | posting (push : Push) (accessToken : Option String)
  | puttingItem (push : Push) (item : ρ)
  | dequeuing (push : Push)
  | markingConflict (push : Push)
  | markingDirty (push : Push)
  | markingRetryable (push : Push) (now : Nat)
  | readingUndo (mutationId : Id)
  | dequeuingUndo (mutationId : Id)
  | dequeuingResolved (oldMutationId : Id) (resolution : Mutation)
  -- `replaces` is the mutation that a `resolveConflict` has dequeued before.
  | enqueuing (mutation : Mutation) (replaces : Option Id)
  | gettingCursor (vaultId : Id) (maxPages : Nat)
  | requestingPage (pull : Pull)
  | puttingChange (pull : Pull) (page : ChangePage ρ) (change : ρ) (rest : List ρ)
  | settingCursor (pull : Pull) (page : ChangePage ρ)

inductive SyncCall where
  | enqueueEdit (mutation : Mutation)
  | pushAll (now : Nat)
  | pushOne (entry : QueuedMutation)
  | resolveConflict (oldMutationId : Id) (resolution : Mutation)
  | undoDeleteIfLocal (mutationId : Id)
  | pull (vaultId : Id) (maxPages : Nat)

/-- What runs up to the next await: where the call is then suspended (`none` at its end, by a
return or an exception), the request it has sent, and the mutation whose undo returned `true`. -/
structure SyncProgress (ρ : Type) where
  task : Option (SyncTask ρ)
  request : Option Mutation := none
  undone : Option Id := none

section Tasks

variable {σ ρ ε : Type} (repo : LocalRepository σ ρ ε) (backoff : BackoffOptions)
  (vaultOf : ρ → Id)

def RepositoryCall.perform (state : σ) : RepositoryCall ρ → σ × Settlement ε
  | .listQueuedMutations => (state, .queue (repo.listQueuedMutations state))
  | .getQueuedMutation mutationId => (state, .queued (repo.getQueuedMutation state mutationId))
  | .enqueueMutation entry => (repo.enqueueMutation state entry, .done)
  | .dequeueMutation mutationId => (repo.dequeueMutation state mutationId, .done)
  | .putItem item =>
      match repo.putItem state item with
      | .ok next => (next, .done)
      | .error error => (state, .rejected error)
  | .getCursor vaultId => (state, .cursor (repo.getCursor state vaultId))
  | .setCursor vaultId cursor => (repo.setCursor state vaultId cursor, .done)

namespace SyncTask

def operation : SyncTask ρ → Option (RepositoryCall ρ)
  | .listing _ => some .listQueuedMutations
  | .markingSyncing push => some (.enqueueMutation { push.entry with state := .syncing })
  | .posting _ _ | .requestingPage _ => none
  | .puttingItem _ item | .puttingChange _ _ item _ => some (.putItem item)
  | .dequeuing push => some (.dequeueMutation push.entry.mutationId)
  | .markingConflict push => some (.enqueueMutation { push.entry with state := .conflict })
  | .markingDirty push => some (.enqueueMutation { push.entry with state := .localDirty })
  | .markingRetryable push now =>
      let attempts := push.entry.attempts + 1
      some (.enqueueMutation
        { push.entry with
          state := .retryable
          attempts
          nextRetryAt := some (now + retryDelayMs attempts backoff)
          lastError := some networkErrorMessage })
  | .readingUndo mutationId => some (.getQueuedMutation mutationId)
  | .dequeuingUndo mutationId => some (.dequeueMutation mutationId)
  | .dequeuingResolved oldMutationId _ => some (.dequeueMutation oldMutationId)
  | .enqueuing mutation _ =>
      some (.enqueueMutation { mutation, state := .localDirty, attempts := 0 })
  | .gettingCursor vaultId _ => some (.getCursor vaultId)
  | .settingCursor pull page =>
      some (.setCursor pull.vaultId ((page.nextCursor.or pull.cursor).getD ""))

end SyncTask

def SyncCall.start : SyncCall → SyncTask ρ
  | .enqueueEdit mutation => .enqueuing mutation none
  | .pushAll now => .listing now
  | .pushOne entry => .markingSyncing { entry }
  | .resolveConflict oldMutationId resolution => .dequeuingResolved oldMutationId resolution
  | .undoDeleteIfLocal mutationId => .readingUndo mutationId
  | .pull vaultId maxPages => .gettingCursor vaultId maxPages

def nextEntry (now : Nat) : List QueuedMutation → Option (SyncTask ρ)
  | [] => none
  | entry :: rest =>
      if skipped entry now then nextEntry now rest
      else some (.markingSyncing { entry, listing := some (now, rest) })

def Push.next (push : Push) : Option (SyncTask ρ) :=
  push.listing.bind fun (now, rest) => nextEntry now rest

def Pull.nextPage (pull : Pull) : Option (SyncTask ρ) :=
  if pull.pagesLeft = 0 then none else some (.requestingPage pull)

def Pull.nextChange (pull : Pull) (page : ChangePage ρ) : List ρ → Option (SyncTask ρ)
  | [] => some (.settingCursor pull page)
  | change :: rest =>
      if vaultOf change ≠ pull.vaultId then none else some (.puttingChange pull page change rest)

def Pull.afterPage (pull : Pull) (page : ChangePage ρ) : Option (SyncTask ρ) :=
  if !page.changes.isEmpty && page.nextCursor != pull.cursor then
    Pull.nextPage
      { pull with
        cursor := page.nextCursor.or pull.cursor
        pagesLeft := pull.pagesLeft - 1 }
  else none

def Push.answered (push : Push) (now : Nat) :
    Except (Thrown ρ ε) (MutateOutcome ρ) → Option (SyncTask ρ)
  | .ok (.created (some item)) => some (.puttingItem push item)
  | .ok (.created none) => none
  | .ok (.conflict _) => some (.markingConflict push)
  | .error (.httpError _ _) => some (.markingDirty push)
  | .error .networkError => some (.markingRetryable push now)
  | .error _ => none

def SyncTask.resume (accessToken : Option String) :
    SyncTask ρ → Settlement ε → Option (SyncProgress ρ)
  | .listing now, .queue entries => some { task := nextEntry now entries }
  | .markingSyncing push, .done =>
      some
        { task := some (.posting push accessToken)
          request := if hasToken accessToken then some push.entry.mutation else none }
  | .puttingItem push _, .done => some { task := some (.dequeuing push) }
  | .dequeuing push, .done | .markingConflict push, .done | .markingRetryable push _, .done =>
      some { task := push.next }
  -- The status is thrown, out of the loop of a `pushAll` too.
  | .markingDirty _, .done => some { task := none }
  | .readingUndo mutationId, .queued (some entry) =>
      some { task := if entry.state = .localClean then none else some (.dequeuingUndo mutationId) }
  | .readingUndo _, .queued none => some { task := none }
  | .dequeuingUndo mutationId, .done => some { task := none, undone := some mutationId }
  | .dequeuingResolved oldMutationId resolution, .done =>
      some { task := some (.enqueuing resolution (some oldMutationId)) }
  | .enqueuing _ _, .done => some { task := none }
  | .gettingCursor vaultId maxPages, .cursor cursor =>
      some { task := Pull.nextPage ⟨vaultId, cursor, maxPages⟩ }
  | .puttingChange pull page _ rest, .done => some { task := pull.nextChange vaultOf page rest }
  | .settingCursor pull page, .done => some { task := pull.afterPage page }
  | .puttingItem _ _, .rejected _ | .puttingChange _ _ _ _, .rejected _ => some { task := none }
  | _, _ => none

end Tasks

/-- A suspended call, and what its awaited operation has settled with once it took effect. -/
structure Suspended (ρ ε : Type) where
  task : SyncTask ρ
  settled : Option (Settlement ε) := none

/-- `requests` are on their way to the server, `applied` the mutations it has applied. -/
structure SyncRun (σ ρ ε : Type) where
  repo : σ
  tasks : Nat → Option (Suspended ρ ε)
  requests : List Mutation
  applied : List Id

inductive SyncAction (ρ : Type) where
  | call (t : Nat) (call : SyncCall)
  | perform (t : Nat)
  | fail (t : Nat)
  | resume (t : Nat) (accessToken : Option String)
  -- The request of a push settles. Whether the server gets to it is another matter.
  | answer (t : Nat) (reply : Reply ρ) (now : Nat)
  | page (t : Nat) (page : Option (ChangePage ρ))
  | serverApplies (mutation : Mutation)
  | requestEnds (mutation : Mutation)
  | restart

namespace SyncRun

section Step

variable {σ ρ ε : Type} (repo : LocalRepository σ ρ ε) (backoff : BackoffOptions)
  (vaultOf : ρ → Id)

def initial (state : σ) : SyncRun σ ρ ε where
  repo := state
  tasks := fun _ => none
  requests := []
  applied := []

def suspend (run : SyncRun σ ρ ε) (t : Nat) (task : Option (SyncTask ρ)) : SyncRun σ ρ ε :=
  { run with tasks := Function.update run.tasks t (task.map fun task => { task }) }

def performed (run : SyncRun σ ρ ε) (t : Nat) (task : SyncTask ρ) (operation : RepositoryCall ρ) :
    SyncRun σ ρ ε :=
  { run with
    repo := (operation.perform repo run.repo).1
    tasks := Function.update run.tasks t
      (some { task, settled := some (operation.perform repo run.repo).2 }) }

def awaiting (run : SyncRun σ ρ ε) (t : Nat) : Option (SyncTask ρ) :=
  match run.tasks t with
  | some ⟨task, none⟩ => some task
  | _ => none

def step (run : SyncRun σ ρ ε) : SyncAction ρ → Option (SyncRun σ ρ ε)
  | .call t call =>
      if (run.tasks t).isSome then none else some (run.suspend t (some call.start))
  | .perform t =>
      (run.awaiting t).bind fun task =>
        (task.operation backoff).map fun operation => run.performed repo t task operation
  -- Every task ends with an operation that fails: `pushOne` throws what is no answer of the
  -- server, and `pull` returns it.
  | .fail t =>
      (run.awaiting t).bind fun task =>
        (task.operation backoff).map fun _ => run.suspend t none
  | .resume t accessToken =>
      match run.tasks t with
      | some ⟨task, some settled⟩ =>
          (task.resume vaultOf accessToken settled).map fun progress =>
            { run.suspend t progress.task with
              requests := progress.request.toList ++ run.requests }
      | _ => none
  | .answer t reply now =>
      match run.awaiting t with
      | some (.posting push accessToken) =>
          let outcome : Except (Thrown ρ ε) (MutateOutcome ρ) := mutateItem accessToken reply
          some (run.suspend t (push.answered now outcome))
      | _ => none
  | .page t page =>
      match run.awaiting t with
      | some (.requestingPage pull) =>
          some (run.suspend t (page.bind fun page => pull.nextChange vaultOf page page.changes))
      | _ => none
  | .serverApplies mutation =>
      if mutation ∈ run.requests then
        some { run with
          requests := run.requests.erase mutation
          applied := mutation.mutationId :: run.applied }
      else none
  | .requestEnds mutation =>
      if mutation ∈ run.requests then some { run with requests := run.requests.erase mutation }
      else none
  -- Only the contents of the repository survive.
  | .restart => some { run with tasks := fun _ => none }

variable {repo backoff vaultOf} {run : SyncRun σ ρ ε} {t : Nat} {task : SyncTask ρ}

@[simp] theorem suspend_repo (run : SyncRun σ ρ ε) (t : Nat) (task : Option (SyncTask ρ)) :
    (run.suspend t task).repo = run.repo := rfl

@[simp] theorem suspend_requests (run : SyncRun σ ρ ε) (t : Nat) (task : Option (SyncTask ρ)) :
    (run.suspend t task).requests = run.requests := rfl

@[simp] theorem suspend_applied (run : SyncRun σ ρ ε) (t : Nat) (task : Option (SyncTask ρ)) :
    (run.suspend t task).applied = run.applied := rfl

@[simp] theorem performed_requests (run : SyncRun σ ρ ε) (t : Nat) (task : SyncTask ρ)
    (operation : RepositoryCall ρ) :
    (run.performed repo t task operation).requests = run.requests := rfl

@[simp] theorem performed_applied (run : SyncRun σ ρ ε) (t : Nat) (task : SyncTask ρ)
    (operation : RepositoryCall ρ) :
    (run.performed repo t task operation).applied = run.applied := rfl

theorem awaiting_eq_some : run.awaiting t = some task ↔ run.tasks t = some ⟨task, none⟩ := by
  unfold awaiting
  split
  · rename_i other found
    simp [found]
  · rename_i other
    refine iff_of_false nofun ?_
    intro found
    exact other task found

theorem suspend_tasks (run : SyncRun σ ρ ε) (t : Nat) (task : Option (SyncTask ρ)) (other : Nat)
    (s : Suspended ρ ε) (found : (run.suspend t task).tasks other = some s) :
    (∃ suspended, task = some suspended ∧ s = { task := suspended }) ∨
      run.tasks other = some s := by
  change Function.update run.tasks t _ other = some s at found
  by_cases same : other = t
  · subst same
    rw [Function.update_self, Option.map_eq_some_iff] at found
    rcases found with ⟨suspended, rfl, rfl⟩
    exact Or.inl ⟨suspended, rfl, rfl⟩
  · rw [Function.update_of_ne same] at found
    exact Or.inr found

theorem performed_tasks (run : SyncRun σ ρ ε) (t : Nat) (task : SyncTask ρ)
    (operation : RepositoryCall ρ) (other : Nat) (s : Suspended ρ ε)
    (found : (run.performed repo t task operation).tasks other = some s) :
    s = ⟨task, some (operation.perform repo run.repo).2⟩ ∨ run.tasks other = some s := by
  change Function.update run.tasks t _ other = some s at found
  by_cases same : other = t
  · subst same
    rw [Function.update_self, Option.some.injEq] at found
    exact Or.inl found.symm
  · rw [Function.update_of_ne same] at found
    exact Or.inr found

section Inversion

variable (repo backoff vaultOf)

theorem step_perform (run : SyncRun σ ρ ε) (t : Nat) (next : SyncRun σ ρ ε) :
    run.step repo backoff vaultOf (.perform t) = some next ↔
      ∃ task operation, run.tasks t = some ⟨task, none⟩ ∧
        task.operation backoff = some operation ∧ next = run.performed repo t task operation := by
  simp only [step, Option.bind_eq_some_iff, Option.map_eq_some_iff, awaiting_eq_some]
  constructor
  · rintro ⟨task, found, operation, awaited, rfl⟩
    exact ⟨task, operation, found, awaited, rfl⟩
  · rintro ⟨task, operation, found, awaited, rfl⟩
    exact ⟨task, found, operation, awaited, rfl⟩

theorem step_fail (run : SyncRun σ ρ ε) (t : Nat) (next : SyncRun σ ρ ε)
    (stepped : run.step repo backoff vaultOf (.fail t) = some next) :
    next = run.suspend t none := by
  simp only [step, Option.bind_eq_some_iff, Option.map_eq_some_iff] at stepped
  rcases stepped with ⟨_, _, _, _, rfl⟩
  rfl

theorem step_resume (run : SyncRun σ ρ ε) (t : Nat) (accessToken : Option String)
    (next : SyncRun σ ρ ε) :
    run.step repo backoff vaultOf (.resume t accessToken) = some next ↔
      ∃ task settled progress, run.tasks t = some ⟨task, some settled⟩ ∧
        task.resume vaultOf accessToken settled = some progress ∧
        next = { run.suspend t progress.task with
          requests := progress.request.toList ++ run.requests } := by
  simp only [step]
  split
  · rename_i task settled found
    simp only [Option.map_eq_some_iff, found, Option.some.injEq, Suspended.mk.injEq]
    constructor
    · rintro ⟨progress, resumed, rfl⟩
      exact ⟨task, settled, progress, ⟨rfl, rfl⟩, resumed, rfl⟩
    · rintro ⟨_, _, progress, ⟨rfl, rfl⟩, resumed, rfl⟩
      exact ⟨progress, resumed, rfl⟩
  · rename_i other
    refine iff_of_false nofun ?_
    rintro ⟨task, settled, _, found, _⟩
    exact other task settled found

theorem step_answer (run : SyncRun σ ρ ε) (t : Nat) (reply : Reply ρ) (now : Nat)
    (next : SyncRun σ ρ ε) :
    run.step repo backoff vaultOf (.answer t reply now) = some next ↔
      ∃ push accessToken, run.tasks t = some ⟨.posting push accessToken, none⟩ ∧
        next = run.suspend t
          (push.answered now (mutateItem accessToken reply : Except (Thrown ρ ε) _)) := by
  simp only [step]
  split
  · rename_i push accessToken found
    rw [awaiting_eq_some] at found
    constructor
    · intro stepped
      cases stepped
      exact ⟨push, accessToken, found, rfl⟩
    · rintro ⟨_, _, found', rfl⟩
      rw [found] at found'
      cases found'
      rfl
  · rename_i other
    refine iff_of_false nofun ?_
    rintro ⟨push, accessToken, found, _⟩
    exact other push accessToken (awaiting_eq_some.mpr found)

theorem step_page (run : SyncRun σ ρ ε) (t : Nat) (page : Option (ChangePage ρ))
    (next : SyncRun σ ρ ε) (stepped : run.step repo backoff vaultOf (.page t page) = some next) :
    ∃ pull, run.tasks t = some ⟨.requestingPage pull, none⟩ ∧
      next = run.suspend t (page.bind fun page => pull.nextChange vaultOf page page.changes) := by
  simp only [step] at stepped
  split at stepped
  · rename_i pull found
    cases stepped
    exact ⟨pull, awaiting_eq_some.mp found, rfl⟩
  · cases stepped

theorem step_repo (run : SyncRun σ ρ ε) (action : SyncAction ρ) (next : SyncRun σ ρ ε)
    (stepped : run.step repo backoff vaultOf action = some next) :
    next.repo = run.repo ∨
      ∃ (t : Nat) (operation : RepositoryCall ρ), action = .perform t ∧
        next.repo = (operation.perform repo run.repo).1 := by
  cases action with
  | call t call =>
      simp only [step] at stepped
      split at stepped <;> cases stepped
      exact Or.inl rfl
  | perform t =>
      rcases (step_perform repo backoff vaultOf run t next).mp stepped with
        ⟨task, operation, found, awaited, rfl⟩
      exact Or.inr ⟨t, operation, rfl, rfl⟩
  | fail t =>
      rw [step_fail repo backoff vaultOf run t next stepped]
      exact Or.inl rfl
  | resume t accessToken =>
      rcases (step_resume repo backoff vaultOf run t accessToken next).mp stepped with
        ⟨task, settled, progress, found, resumed, rfl⟩
      exact Or.inl rfl
  | answer t reply now =>
      rcases (step_answer repo backoff vaultOf run t reply now next).mp stepped with
        ⟨push, accessToken, found, rfl⟩
      exact Or.inl rfl
  | page t page =>
      rcases step_page repo backoff vaultOf run t page next stepped with ⟨pull, found, rfl⟩
      exact Or.inl rfl
  | serverApplies mutation =>
      simp only [step] at stepped
      split at stepped <;> cases stepped
      exact Or.inl rfl
  | requestEnds mutation =>
      simp only [step] at stepped
      split at stepped <;> cases stepped
      exact Or.inl rfl
  | restart =>
      cases stepped
      exact Or.inl rfl

theorem step_settled (run : SyncRun σ ρ ε) (action : SyncAction ρ) (next : SyncRun σ ρ ε)
    (stepped : run.step repo backoff vaultOf action = some next) (t : Nat) (task : SyncTask ρ)
    (settled : Settlement ε) (found : next.tasks t = some ⟨task, some settled⟩) :
    run.tasks t = some ⟨task, some settled⟩ ∨
      action = .perform t ∧ run.tasks t = some ⟨task, none⟩ := by
  -- a call that goes on to its next await has nothing settled
  have suspended (other : Nat) (after : Option (SyncTask ρ))
      (found : (run.suspend other after).tasks t = some ⟨task, some settled⟩) :
      run.tasks t = some ⟨task, some settled⟩ := by
    rcases run.suspend_tasks other after t _ found with ⟨_, _, fresh⟩ | before
    · cases fresh
    · exact before
  cases action with
  | call other call =>
      simp only [step] at stepped
      split at stepped <;> cases stepped
      exact Or.inl (suspended other _ found)
  | perform other =>
      rcases (step_perform repo backoff vaultOf run other next).mp stepped with
        ⟨performing, operation, there, awaited, rfl⟩
      by_cases same : t = other
      · subst same
        rcases run.performed_tasks t performing operation t _ found with fresh | before
        · cases fresh
          exact Or.inr ⟨rfl, there⟩
        · exact Or.inl before
      · change Function.update run.tasks other _ t = _ at found
        rw [Function.update_of_ne same] at found
        exact Or.inl found
  | fail other =>
      rw [step_fail repo backoff vaultOf run other next stepped] at found
      exact Or.inl (suspended other _ found)
  | resume other accessToken =>
      rcases (step_resume repo backoff vaultOf run other accessToken next).mp stepped with
        ⟨_, _, progress, _, _, rfl⟩
      exact Or.inl (suspended other progress.task found)
  | answer other reply now =>
      rcases (step_answer repo backoff vaultOf run other reply now next).mp stepped with
        ⟨push, accessToken, _, rfl⟩
      exact Or.inl (suspended other _ found)
  | page other page =>
      rcases step_page repo backoff vaultOf run other page next stepped with ⟨pull, _, rfl⟩
      exact Or.inl (suspended other _ found)
  | serverApplies mutation =>
      simp only [step] at stepped
      split at stepped <;> cases stepped
      exact Or.inl found
  | requestEnds mutation =>
      simp only [step] at stepped
      split at stepped <;> cases stepped
      exact Or.inl found
  | restart =>
      cases stepped
      cases found

end Inversion

section Alone

variable (repo backoff vaultOf) (run)

theorem run_operation {operation : RepositoryCall ρ} (progress : SyncProgress ρ)
    (accessToken : Option String) (found : run.tasks t = some ⟨task, none⟩)
    (awaited : task.operation backoff = some operation)
    (resumed : task.resume vaultOf accessToken (operation.perform repo run.repo).2 =
      some progress) :
    Transition.run (step repo backoff vaultOf) run [.perform t, .resume t accessToken] =
      some { run.suspend t progress.task with
        repo := (operation.perform repo run.repo).1
        requests := progress.request.toList ++ run.requests } := by
  have first := (step_perform repo backoff vaultOf run t _).mpr
    ⟨task, operation, found, awaited, rfl⟩
  have second := (step_resume repo backoff vaultOf (run.performed repo t task operation) t
    accessToken _).mpr ⟨task, _, progress, Function.update_self _ _ _, resumed, rfl⟩
  rw [run_cons, first, Option.bind_some, run_cons, second]
  simp [suspend, performed]

theorem run_last {operation : RepositoryCall ρ} (task : SyncTask ρ) (accessToken : Option String)
    (awaited : task.operation backoff = some operation)
    (resumed : task.resume vaultOf accessToken (operation.perform repo run.repo).2 =
      some { task := none }) :
    ∃ rest final, Transition.run (step repo backoff vaultOf) (run.suspend t (some task)) rest =
        some final ∧
      final.tasks t = none ∧ final.repo = (operation.perform repo run.repo).1 :=
  ⟨_, _, run_operation repo backoff vaultOf (run.suspend t (some task)) { task := none }
    accessToken (Function.update_self _ _ _) awaited resumed, Function.update_self _ _ _, rfl⟩

theorem run_answered {entry : QueuedMutation} {accessToken : Option String} (reply : Reply ρ)
    (now : Nat) (found : run.tasks t = some ⟨.posting { entry } accessToken, none⟩) :
    ∃ rest final,
      Transition.run (step repo backoff vaultOf) run (.answer t reply now :: rest) = some final ∧
      final.tasks t = none ∧
      ∀ before : σ, run.repo = repo.enqueueMutation before { entry with state := .syncing } →
        final.repo = (pushOne repo backoff before entry now accessToken reply).1 := by
  have answered := (step_answer repo backoff vaultOf run t reply now _).mpr
    ⟨{ entry }, accessToken, found, rfl⟩
  simp only [run_cons, answered, Option.bind_some]
  unfold pushOne pushBody
  generalize (mutateItem accessToken reply : Except (Thrown ρ ε) (MutateOutcome ρ)) = outcome
  -- one branch of the `try` block and its `catch` after the other
  rcases outcome with thrown | ⟨_ | item⟩ | conflict
  · cases thrown with
    | httpError status body =>
        rcases run_last repo backoff vaultOf run (.markingDirty { entry }) accessToken rfl rfl
          with ⟨rest, final, ran, ended, left⟩
        exact ⟨rest, final, ran, ended, fun before synced => by rw [left, ← synced]; rfl⟩
    | networkError =>
        rcases run_last repo backoff vaultOf run (.markingRetryable { entry } now) accessToken rfl
          rfl with ⟨rest, final, ran, ended, left⟩
        exact ⟨rest, final, ran, ended, fun before synced => by rw [left, ← synced]; rfl⟩
    | _ => exact ⟨[], _, rfl, Function.update_self _ _ _, fun _ synced => synced⟩
  · exact ⟨[], _, rfl, Function.update_self _ _ _, fun _ synced => synced⟩
  · cases put : repo.putItem run.repo item with
    | error error =>
        rcases run_last repo backoff vaultOf run (.puttingItem { entry } item) accessToken rfl
          (by simp only [RepositoryCall.perform, put]; rfl) with ⟨rest, final, ran, ended, left⟩
        refine ⟨rest, final, ran, ended, fun before synced => ?_⟩
        simp only [RepositoryCall.perform, put] at left
        simp only [← synced, put, left]
    | ok next =>
        have stored := run_operation repo backoff vaultOf
          (run.suspend t (some (.puttingItem { entry } item)))
          { task := some (.dequeuing { entry }) } accessToken (Function.update_self _ _ _) rfl
          (by simp only [suspend_repo, RepositoryCall.perform, put]; rfl)
        simp only [suspend_repo, RepositoryCall.perform, put] at stored
        rcases run_last repo backoff vaultOf
          { run.suspend t (some (.puttingItem { entry } item)) with repo := next }
          (.dequeuing { entry }) accessToken rfl rfl with ⟨rest, final, ran, ended, left⟩
        refine ⟨[.perform t, .resume t accessToken] ++ rest, final, ?_, ended, ?_⟩
        · rw [run_append]
          exact (congrArg (Option.bind · _) stored).trans ran
        · intro before synced
          simp only [← synced, put]
          exact left
  · rcases run_last repo backoff vaultOf run (.markingConflict { entry }) accessToken rfl rfl
      with ⟨rest, final, ran, ended, left⟩
    exact ⟨rest, final, ran, ended, fun before synced => by rw [left, ← synced]; rfl⟩

theorem run_pushOne {entry : QueuedMutation}
    (found : run.tasks t = some ⟨.markingSyncing { entry }, none⟩) (accessToken : Option String)
    (reply : Reply ρ) (now : Nat) :
    ∃ rest final,
      Transition.run (step repo backoff vaultOf) run
        ([.perform t, .resume t accessToken] ++ .answer t reply now :: rest) = some final ∧
      final.tasks t = none ∧
      final.repo = (pushOne repo backoff run.repo entry now accessToken reply).1 := by
  have posted := run_operation repo backoff vaultOf run
    { task := some (.posting { entry } accessToken)
      request := if hasToken accessToken then some entry.mutation else none }
    accessToken found rfl rfl
  rcases run_answered repo backoff vaultOf
    { run.suspend t (some (.posting { entry } accessToken)) with
      repo := repo.enqueueMutation run.repo { entry with state := .syncing }
      requests := (if hasToken accessToken then some entry.mutation else none).toList ++
        run.requests } reply now (Function.update_self _ _ _) with ⟨rest, final, ran, ended, left⟩
  refine ⟨rest, final, ?_, ended, left run.repo rfl⟩
  rw [run_append]
  exact (congrArg (Option.bind · _) posted).trans ran

end Alone

end Step

end SyncRun

end ZenPass.Web
