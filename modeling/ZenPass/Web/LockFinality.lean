import ZenPass.Web.VaultTasks

set_option autoImplicit false

namespace ZenPass.Web

open KeyedStore Sdk Transition

variable {D : Type}

structure VaultSession.Cleared (vault : VaultSession D) : Prop where
  session : vault.session = none
  itemCache : vault.itemCache = .empty
  revisionCache : vault.revisionCache = .empty
  deletedLocally : vault.deletedLocally = []

/-- After a lock and until a later unlock, nothing is left in memory, and no crypto session that
was ever opened is installed. -/
def VaultRun.LockFinal (state : VaultRun D) : Prop :=
  state.lockResolved = true →
    state.vault.Cleared ∧ ∀ opened ∈ state.opened, state.vault.session ≠ some opened.1

/-- The two resumptions that write past a lock: an unlock that gets its session, and a delete
whose mutation has been queued. -/
def Task.writesPastLock : Task D → Answer D → Bool
  | .unlocking _, .session _ => true
  | .enqueuingDelete _, .done => true
  | _, _ => false

/-- No call that was suspended before a lock writes between the lock and the next unlock. -/
def VaultRun.noLateWrite (state : VaultRun D) : VaultAction D → Prop
  | .resume t answer =>
      state.lockResolved = true → ∀ task, state.tasks t = some task →
        task.writesPastLock answer = false
  | .call _ _ => True

namespace VaultSession

variable {vault : VaultSession D} {validate : D → List String}

theorem cleared_cleared (vault : VaultSession D) : vault.cleared.Cleared := ⟨rfl, rfl, rfl, rfl⟩

theorem Cleared.stale (cleared : vault.Cleared) (generation : Nat) :
    vault.isGenerationCurrent generation = false := by
  rw [isGenerationCurrent, cleared.session]
  exact Bool.and_false _

theorem Cleared.finishEdit (cleared : vault.Cleared) (generation : Nat) (itemId : Id) (data : D) :
    vault.finishEdit generation itemId data = vault := by
  rw [VaultSession.finishEdit, cleared.stale]
  rfl

theorem Cleared.nextRecord (cleared : vault.Cleared) (load : Load) (records : List ItemRecord) :
    vault.nextRecord load records = { vault } := by
  cases records <;> simp [VaultSession.nextRecord, cleared.stale]

theorem Cleared.nextQueued (cleared : vault.Cleared) (load : Load) (entries : List QueuedMutation) :
    vault.nextQueued load entries = { vault } := by
  cases entries <;> simp [VaultSession.nextQueued, cleared.stale]

theorem Cleared.startLoad (cleared : vault.Cleared) : vault.startLoad = { vault } := by
  simp [VaultSession.startLoad, cleared.session]

theorem Cleared.undelete (cleared : vault.Cleared) (itemId : Id) :
    (vault.undelete itemId).Cleared := by
  refine ⟨cleared.session, cleared.itemCache, cleared.revisionCache, ?_⟩
  simp [VaultSession.undelete, cleared.deletedLocally]

theorem Cleared.start (cleared : vault.Cleared) (call : Call D) :
    (vault.start validate call).vault.Cleared := by
  cases call with
  | unlockWithPassword => exact ⟨cleared.1, cleared.2, cleared.3, cleared.4⟩
  | unlockWithRecovery => exact ⟨cleared.1, cleared.2, cleared.3, cleared.4⟩
  | saveItem data itemId =>
      simp only [VaultSession.start, cleared.session]
      split <;> exact cleared
  | deleteItem itemId => simpa [VaultSession.start, cleared.session] using cleared
  | undoDeleteIfLocal => exact cleared
  | resolveConflict => simpa [VaultSession.start, cleared.session] using cleared
  | refreshFromRepository => simpa [VaultSession.start, cleared.startLoad] using cleared
  | lock => simpa [VaultSession.start, cleared.session] using cleared_cleared vault

theorem startLoad_vault (vault : VaultSession D) : vault.startLoad.vault = vault := by
  unfold VaultSession.startLoad
  split <;> rfl

theorem Cleared.resume (cleared : vault.Cleared) {task : Task D} {answer : Answer D}
    {progress : Progress D} (resumed : vault.resume task answer = some progress)
    (early : task.writesPastLock answer = false) : progress.vault.Cleared := by
  cases task with
  | unlocking bundle =>
      cases answer <;> cases resumed
      · cases early
      · exact cleared
  | listing load =>
      cases answer <;> cases resumed
      · rw [cleared.nextRecord]
        exact cleared
      · exact cleared
  | openingRecord load itemId rest =>
      cases answer with
      | opened data =>
          cases data <;> simp only [VaultSession.resume, cleared.stale, cleared.nextRecord] at resumed <;>
            cases resumed <;> exact cleared
      | failed =>
          cases resumed
          exact cleared
      | _ => cases resumed
  | listingQueue load =>
      cases answer <;> simp only [VaultSession.resume, cleared.stale] at resumed <;>
        cases resumed <;> exact cleared
  | openingQueued load itemId rest =>
      cases answer with
      | opened data =>
          cases data <;> simp only [VaultSession.resume, cleared.stale, cleared.nextQueued] at resumed <;>
            cases resumed <;> exact cleared
      | failed =>
          cases resumed
          exact cleared
      | _ => cases resumed
  | sealingSave => cases answer <;> cases resumed <;> exact cleared
  | enqueuingSave generation itemId data =>
      cases answer <;> cases resumed
      · rw [cleared.finishEdit]
        exact cleared
      · exact cleared
  | sealingDelete => cases answer <;> cases resumed <;> exact cleared
  | enqueuingDelete itemId =>
      cases answer <;> cases resumed
      · cases early
      · exact cleared
  | readingUndo mutationId itemId =>
      cases answer with
      | queued entry =>
          cases entry with
          | none =>
              cases resumed
              exact cleared
          | some entry =>
              simp only [VaultSession.resume] at resumed
              split at resumed <;> cases resumed <;> exact cleared
      | failed =>
          cases resumed
          exact cleared
      | _ => cases resumed
  | dequeuingUndo itemId =>
      cases answer <;> cases resumed
      · exact cleared.undelete itemId
      · exact cleared
  | sealingResolution => cases answer <;> cases resumed <;> exact cleared
  | resolving generation itemId data =>
      cases answer <;> cases resumed
      · rw [cleared.finishEdit]
        exact cleared
      · exact cleared
  | locking => cases answer <;> cases resumed <;> exact cleared_cleared vault

theorem not_cleared_of_late {task : Task D} {answer : Answer D} {progress : Progress D}
    (resumed : vault.resume task answer = some progress)
    (late : task.writesPastLock answer = true) : ¬ progress.vault.Cleared := by
  intro cleared
  cases task with
  | unlocking bundle =>
      cases answer <;> cases late
      cases resumed
      have session := cleared.session
      rw [startLoad_vault] at session
      cases session
  | enqueuingDelete itemId =>
      cases answer <;> cases late
      cases resumed
      have member : itemId ∈ (vault.tombstoned itemId).deletedLocally := by
        unfold VaultSession.tombstoned
        dsimp only
        split <;> exact List.mem_insert_self
      rw [cleared.deletedLocally] at member
      cases member
  | _ => cases late

end VaultSession

namespace VaultRun

variable {validate : D → List String} {state next : VaultRun D} {action : VaultAction D}

theorem lockFinal_of_cleared (cleared : state.vault.Cleared) : state.LockFinal := by
  intro _
  refine ⟨cleared, fun opened _ => ?_⟩
  rw [cleared.session]
  exact nofun

theorem lockFinal_step (final : state.LockFinal) (stepped : step validate state action = some next) :
    next.LockFinal ↔ state.noLateWrite action := by
  cases action with
  | call t call =>
      refine iff_of_true ?_ trivial
      simp only [step] at stepped
      split at stepped <;> cases stepped
      intro resolved
      -- The lock has resolved before this call, or the call is a lock that awaits nothing.
      by_cases before : state.lockResolved = true
      · exact lockFinal_of_cleared ((final before).1.start call) resolved
      · cases call with
        | lock =>
            have locked : state.vault.session = none := by
              simpa [lockResolvedByCall, before] using resolved
            refine lockFinal_of_cleared ?_ resolved
            simp [advance, VaultSession.start, locked, VaultSession.cleared_cleared]
        | unlockWithPassword => cases resolved
        | unlockWithRecovery => cases resolved
        | _ => exact absurd resolved before
  | resume t answer =>
      simp only [step] at stepped
      split at stepped
      · cases stepped
      · rename_i task suspended
        rw [Option.map_eq_some_iff] at stepped
        obtain ⟨progress, resumed, rfl⟩ := stepped
        by_cases before : state.lockResolved = true
        · have stays : state.lockResolvedByResume task answer = true := by
            cases task <;> cases answer <;> first | exact before | rfl
          cases late : task.writesPastLock answer with
          | true =>
              refine iff_of_false ?_ ?_
              · exact fun kept => VaultSession.not_cleared_of_late resumed late (kept stays).1
              · intro early
                rw [early before task suspended] at late
                cases late
          | false =>
              refine iff_of_true (lockFinal_of_cleared ((final before).1.resume resumed late)) ?_
              rintro - other same
              rw [suspended, Option.some.injEq] at same
              exact same ▸ late
        · refine iff_of_true ?_ (fun resolved => absurd resolved before)
          intro resolved
          cases task with
          | locking =>
              cases answer with
              | done =>
                  cases resumed
                  exact lockFinal_of_cleared (VaultSession.cleared_cleared state.vault) rfl
              | _ => exact absurd resolved before
          | _ => exact absurd resolved before

/-- In every interleaving of the session's methods, locks are final throughout exactly when no
unlock installs its session and no delete marks its item between a lock and the next unlock. -/
theorem web_lock_final (validate : D → List String) (actions : List (VaultAction D)) :
    Always (step validate) LockFinal initial actions ↔
      Every (step validate) noLateWrite initial actions := by
  refine always_iff_every (fun _ => True) (fun _ _ _ _ _ => trivial) ?_ trivial ?_
  · exact fun _ _ _ _ final stepped => lockFinal_step final stepped
  · exact fun resolved => nomatch resolved

end VaultRun

section Samples

def sampleBundle : AccountBundle := ⟨"account", "vault"⟩

def lockDuringUnlock : List (VaultAction String) :=
  [.call 1 (.unlockWithPassword sampleBundle), .call 2 .lock, .resume 1 (.session 7)]

/-- The lock has resolved, and afterwards the session is installed. -/
theorem lock_during_unlock_not_final :
    ¬ ∀ actions : List (VaultAction String),
      Always (VaultRun.step fun _ => []) VaultRun.LockFinal VaultRun.initial actions := by
  intro holds
  have always := holds lockDuringUnlock
  have final := (((always.2 _ rfl).2 _ rfl).2 _ rfl) rfl
  exact absurd final.1.session (by decide)

end Samples

end ZenPass.Web
