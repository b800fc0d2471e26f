import ZenPass.Web.LockFinality

set_option autoImplicit false

-- Every unlock that installs a session gets a number, and every cache entry remembers the number
-- under which it was loaded or saved.

namespace ZenPass.Web

open KeyedStore Sdk Transition

variable {D : Type}

/-- What a step adds to the history. `uses` are the numbers of what is sealed or taken as a base
revision, each with the number its call works under. -/
structure Provenance where
  item : Id → Nat := fun _ => 0
  revision : Id → Nat := fun _ => 0
  task : Nat → Nat := fun _ => 0
  uses : List (Nat × Nat) := []

structure CacheRun (D : Type) where
  state : VaultRun D
  origins : Provenance

def notedRecords : List ItemRecord → List Id
  | [] => []
  | record :: rest => record.itemId :: if record.deleted then notedRecords rest else []

namespace VaultSession

def writesItem (vault : VaultSession D) : Task D → Answer D → Option Id
  | .openingRecord load itemId _, .opened (some _)
  | .openingQueued load itemId _, .opened (some _) =>
      if vault.isGenerationCurrent load.generation then some itemId else none
  | .enqueuingSave generation itemId _, .done
  | .resolving generation itemId _, .done =>
      if vault.isGenerationCurrent generation then some itemId else none
  | _, _ => none

def writesRevisions (vault : VaultSession D) : Task D → Answer D → List Id
  | .listing load, .records records =>
      if vault.isGenerationCurrent load.generation then notedRecords records else []
  | .openingRecord load _ rest, .opened _ =>
      if vault.isGenerationCurrent load.generation then notedRecords rest else []
  | _, _ => []

def takesRevision (vault : VaultSession D) : Task D → Answer D → Option Id
  | .sealingSave _ _ itemId _, .envelope _ _ | .sealingDelete _ itemId, .envelope _ _ =>
      if (vault.revisionCache.get itemId).isSome then some itemId else none
  | _, _ => none

def sealsItem (vault : VaultSession D) : Call D → Option Id
  | .deleteItem itemId =>
      match vault.session, vault.bundle, vault.itemCache.get itemId with
      | some _, some _, some _ => some itemId
      | _, _, _ => none
  | _ => none

end VaultSession

def Task.installs : Task D → Answer D → Bool
  | .unlocking _, .session _ => true
  | _, _ => false

namespace CacheRun

def initial : CacheRun D := ⟨.initial, {}⟩

def installed (run : CacheRun D) : Nat := run.state.opened.length

def noteCall (run : CacheRun D) (t : Nat) (call : Call D) : Provenance :=
  { run.origins with
    task := Function.update run.origins.task t run.installed
    uses := run.origins.uses ++
      (run.state.vault.sealsItem call).toList.map fun itemId =>
        (run.origins.item itemId, run.installed) }

def noteResume (run : CacheRun D) (t : Nat) (task : Task D) (answer : Answer D) : Provenance where
  item itemId :=
    if run.state.vault.writesItem task answer = some itemId then run.origins.task t
    else run.origins.item itemId
  revision itemId :=
    if itemId ∈ run.state.vault.writesRevisions task answer then run.origins.task t
    else run.origins.revision itemId
  -- the load of an unlock works with the session it has just installed
  task := if task.installs answer then Function.update run.origins.task t (run.installed + 1)
    else run.origins.task
  uses := run.origins.uses ++
    (run.state.vault.takesRevision task answer).toList.map fun itemId =>
      (run.origins.revision itemId, run.origins.task t)

def note (run : CacheRun D) : VaultAction D → Provenance
  | .call t call => run.noteCall t call
  | .resume t answer =>
      match run.state.tasks t with
      | none => run.origins
      | some task => run.noteResume t task answer

def step (validate : D → List String) (run : CacheRun D) (action : VaultAction D) :
    Option (CacheRun D) :=
  (run.state.step validate action).map fun next => ⟨next, run.note action⟩

structure OwnCaches (run : CacheRun D) : Prop where
  opened : ∀ session, run.state.vault.session = some session →
    ∃ bundle, run.state.vault.bundle = some bundle ∧
      run.state.opened.getLast? = some (session, bundle)
  item : ∀ itemId, (run.state.vault.itemCache.get itemId).isSome = true →
    run.state.vault.session.isSome = true ∧ run.origins.item itemId = run.installed
  revision : ∀ itemId, (run.state.vault.revisionCache.get itemId).isSome = true →
    run.state.vault.session.isSome = true ∧ run.origins.revision itemId = run.installed
  uses : ∀ use ∈ run.origins.uses, use.1 = use.2

/-- A session is installed over empty caches, and no call writes into the caches, or takes a base
revision from them, once another session has been installed since it captured its own. -/
def keepsApart (run : CacheRun D) : VaultAction D → Prop
  | .call _ _ => True
  | .resume t answer => ∀ task, run.state.tasks t = some task →
      (task.installs answer = true → ∀ itemId, run.state.vault.itemCache.get itemId = none ∧
        run.state.vault.revisionCache.get itemId = none) ∧
      (run.state.vault.writesItem task answer ≠ none ∨
        run.state.vault.writesRevisions task answer ≠ [] ∨
        run.state.vault.takesRevision task answer ≠ none → run.origins.task t = run.installed)

end CacheRun

namespace VaultSession

variable {vault : VaultSession D}

structure SameSession (after before : VaultSession D) : Prop where
  session : after.session = before.session
  bundle : after.bundle = before.bundle
  generation : after.generation = before.generation

theorem SameSession.current {after before : VaultSession D} (same : SameSession after before)
    (generation : Nat) :
    after.isGenerationCurrent generation = before.isGenerationCurrent generation := by
  simp only [isGenerationCurrent, same.session, same.generation]

theorem SameSession.trans {first second third : VaultSession D}
    (outer : SameSession third second) (inner : SameSession second first) :
    SameSession third first :=
  ⟨outer.1.trans inner.1, outer.2.trans inner.2, outer.3.trans inner.3⟩

theorem isSome_get_set {ν : Type} (map : InsertionMap Id ν) (key other : Id) (value : ν) :
    ((map.set key value).get other).isSome = true ↔
      (map.get other).isSome = true ∨ key = other := by
  by_cases same : other = key
  · subst same
    simp [InsertionMap.get_set_self]
  · rw [map.get_set_of_ne value same]
    simp [Ne.symm same]

structure Effects (vault : VaultSession D) (item : Option Id) (revisions : List Id)
    (after : VaultSession D) : Prop where
  same : SameSession after vault
  item : ∀ itemId, (after.itemCache.get itemId).isSome = true ↔
    (vault.itemCache.get itemId).isSome = true ∨ item = some itemId
  revision : ∀ itemId, (after.revisionCache.get itemId).isSome = true ↔
    (vault.revisionCache.get itemId).isSome = true ∨ itemId ∈ revisions

theorem Effects.refl (vault : VaultSession D) : vault.Effects none [] vault where
  same := ⟨rfl, rfl, rfl⟩
  item _ := by simp
  revision _ := by simp

theorem Effects.cache (vault : VaultSession D) (itemId : Id) (data : D) :
    vault.Effects (some itemId) [] (vault.cache itemId data) where
  same := ⟨rfl, rfl, rfl⟩
  item other := by
    rw [Option.some.injEq]
    exact isSome_get_set vault.itemCache itemId other data
  revision _ := by simp [VaultSession.cache]

-- the deletions are kept apart from the two caches
theorem Effects.undelete {item : Option Id} {revisions : List Id} {after : VaultSession D}
    (effects : vault.Effects item revisions after) (itemId : Id) :
    vault.Effects item revisions (after.undelete itemId) :=
  ⟨⟨effects.same.1, effects.same.2, effects.same.3⟩, effects.item, effects.revision⟩

theorem Effects.addDeleted {item : Option Id} {revisions : List Id} {after : VaultSession D}
    (effects : vault.Effects item revisions after) (itemId : Id) :
    vault.Effects item revisions (after.addDeleted itemId) :=
  ⟨⟨effects.same.1, effects.same.2, effects.same.3⟩, effects.item, effects.revision⟩

theorem Effects.revise (vault : VaultSession D) (itemId : Id) (revision : Int) :
    vault.Effects none [itemId]
      { vault with revisionCache := vault.revisionCache.set itemId revision } where
  same := ⟨rfl, rfl, rfl⟩
  item _ := by simp
  revision other := by
    rw [List.mem_singleton, eq_comm (a := other)]
    exact isSome_get_set vault.revisionCache itemId other revision

theorem Effects.trans {middle after : VaultSession D} {item : Option Id}
    {revisions revisions' : List Id} (first : vault.Effects item revisions middle)
    (second : middle.Effects none revisions' after) :
    vault.Effects item (revisions ++ revisions') after where
  same := second.same.trans first.same
  item itemId := by
    rw [second.item, first.item]
    simp
  revision itemId := by
    rw [second.revision, first.revision, List.mem_append, or_assoc]

theorem nextRecord_effects (load : Load) (records : List ItemRecord) (vault : VaultSession D) :
    vault.Effects none
      (if vault.isGenerationCurrent load.generation then notedRecords records else [])
      (vault.nextRecord load records).vault := by
  induction records generalizing vault with
  | nil =>
      simp only [nextRecord, notedRecords, ite_self]
      split <;> exact Effects.refl vault
  | cons record rest ih =>
      unfold nextRecord
      split
      · rename_i current
        have known := Effects.revise vault record.itemId record.revision
        by_cases deleted : record.deleted = true
        · simp only [deleted, if_true, notedRecords]
          have later := (known.addDeleted record.itemId).trans (ih _)
          -- the loop goes on in the same session, so its records are noted too
          rw [(known.addDeleted record.itemId).same.current, if_pos current] at later
          exact later
        · simp only [deleted, if_false, notedRecords, Bool.false_eq_true]
          exact known
      · exact Effects.refl vault

theorem nextQueued_effects (load : Load) (entries : List QueuedMutation) (vault : VaultSession D) :
    vault.Effects none [] (vault.nextQueued load entries).vault := by
  induction entries generalizing vault with
  | nil => exact Effects.refl vault
  | cons entry rest ih =>
      unfold nextQueued
      split
      · split
        · exact ih vault
        · split
          · exact ((Effects.refl vault).addDeleted _).trans (ih _)
          · exact Effects.refl vault
      · exact Effects.refl vault

theorem finishEdit_effects (vault : VaultSession D) (generation : Nat) (itemId : Id) (data : D) :
    vault.Effects (if vault.isGenerationCurrent generation then some itemId else none) []
      (vault.finishEdit generation itemId data) := by
  unfold finishEdit
  split
  · exact (Effects.cache vault itemId data).undelete itemId
  · exact Effects.refl vault

theorem tombstoned_effects (vault : VaultSession D) (itemId : Id) :
    vault.Effects none [] (vault.tombstoned itemId) := by
  unfold tombstoned
  dsimp only
  split
  · exact ⟨⟨rfl, rfl, rfl⟩, ((Effects.refl vault).addDeleted itemId).item,
      ((Effects.refl vault).addDeleted itemId).revision⟩
  · exact (Effects.refl vault).addDeleted itemId

theorem resume_effects {task : Task D} {answer : Answer D} {progress : Progress D}
    (resumed : vault.resume task answer = some progress) (noInstall : task.installs answer = false)
    (noLock : task ≠ .locking) :
    vault.Effects (vault.writesItem task answer) (vault.writesRevisions task answer)
      progress.vault := by
  cases task with
  | unlocking bundle =>
      cases answer <;> cases resumed
      · cases noInstall
      · exact Effects.refl vault
  | listing load =>
      cases answer <;> cases resumed
      · exact nextRecord_effects load _ vault
      · exact Effects.refl vault
  | openingRecord load itemId rest =>
      cases answer with
      | opened data =>
          cases data with
          | none =>
              cases resumed
              exact nextRecord_effects load rest vault
          | some data =>
              simp only [resume] at resumed
              split at resumed
              · rename_i current
                cases resumed
                have later := (Effects.cache vault itemId data).trans
                  (nextRecord_effects load rest (vault.cache itemId data))
                rw [(Effects.cache vault itemId data).same.current] at later
                simpa only [writesItem, writesRevisions, current, if_true, List.nil_append]
                  using later
              · rename_i stale
                cases resumed
                simpa only [writesItem, writesRevisions, stale, if_false, Bool.false_eq_true]
                  using Effects.refl vault
      | failed =>
          cases resumed
          exact Effects.refl vault
      | _ => cases resumed
  | listingQueue load =>
      cases answer with
      | queue entries =>
          simp only [resume] at resumed
          split at resumed <;> cases resumed
          · exact nextQueued_effects load entries vault
          · exact Effects.refl vault
      | failed =>
          cases resumed
          exact Effects.refl vault
      | _ => cases resumed
  | openingQueued load itemId rest =>
      cases answer with
      | opened data =>
          cases data with
          | none =>
              cases resumed
              exact nextQueued_effects load rest vault
          | some data =>
              simp only [resume] at resumed
              split at resumed
              · rename_i current
                cases resumed
                have later := ((Effects.cache vault itemId data).undelete itemId).trans
                  (nextQueued_effects load rest ((vault.cache itemId data).undelete itemId))
                simpa only [writesItem, writesRevisions, current, if_true, List.nil_append]
                  using later
              · rename_i stale
                cases resumed
                simpa only [writesItem, writesRevisions, stale, if_false, Bool.false_eq_true]
                  using Effects.refl vault
      | failed =>
          cases resumed
          exact Effects.refl vault
      | _ => cases resumed
  | enqueuingSave generation itemId data =>
      cases answer <;> cases resumed
      · exact finishEdit_effects vault generation itemId data
      · exact Effects.refl vault
  | resolving generation itemId data =>
      cases answer <;> cases resumed
      · exact finishEdit_effects vault generation itemId data
      · exact Effects.refl vault
  | sealingSave => cases answer <;> cases resumed <;> exact Effects.refl vault
  | sealingDelete => cases answer <;> cases resumed <;> exact Effects.refl vault
  | sealingResolution => cases answer <;> cases resumed <;> exact Effects.refl vault
  | enqueuingDelete itemId =>
      cases answer <;> cases resumed
      · exact tombstoned_effects vault itemId
      · exact Effects.refl vault
  | readingUndo mutationId itemId =>
      cases answer with
      | queued entry =>
          cases entry with
          | none =>
              cases resumed
              exact Effects.refl vault
          | some entry =>
              simp only [resume] at resumed
              split at resumed <;> cases resumed <;> exact Effects.refl vault
      | failed =>
          cases resumed
          exact Effects.refl vault
      | _ => cases resumed
  | dequeuingUndo itemId =>
      cases answer <;> cases resumed
      · exact (Effects.refl vault).undelete itemId
      · exact Effects.refl vault
  | locking => exact absurd rfl noLock

theorem start_vault (validate : D → List String) (vault : VaultSession D) (call : Call D) :
    (vault.start validate call).vault = vault.cleared ∨ ∃ generation,
      (vault.start validate call).vault = { vault with generation := generation } := by
  cases call with
  | lock =>
      by_cases unlocked : vault.session.isSome = true
      · exact .inr ⟨vault.generation, by simp [start, unlocked]⟩
      · exact .inl (by simp [start, unlocked])
  | unlockWithPassword | unlockWithRecovery => exact .inr ⟨vault.generation + 1, rfl⟩
  | undoDeleteIfLocal => exact .inr ⟨vault.generation, rfl⟩
  | refreshFromRepository => exact .inr ⟨vault.generation, startLoad_vault vault⟩
  | saveItem data itemId =>
      refine .inr ⟨vault.generation, ?_⟩
      simp only [start]
      split
      · rfl
      · split <;> rfl
  | deleteItem itemId =>
      refine .inr ⟨vault.generation, ?_⟩
      simp only [start]
      split <;> rfl
  | resolveConflict conflict resolution =>
      refine .inr ⟨vault.generation, ?_⟩
      simp only [start]
      split
      · split <;> rfl
      · rfl

theorem start_caches (validate : D → List String) (vault : VaultSession D) (call : Call D) :
    (vault.start validate call).vault = vault.cleared ∨
      (vault.start validate call).vault.session = vault.session ∧
      (vault.start validate call).vault.bundle = vault.bundle ∧
      (vault.start validate call).vault.itemCache = vault.itemCache ∧
      (vault.start validate call).vault.revisionCache = vault.revisionCache := by
  obtain cleared | ⟨generation, same⟩ := start_vault validate vault call
  · exact .inl cleared
  · rw [same]
    exact .inr ⟨rfl, rfl, rfl, rfl⟩

end VaultSession

namespace CacheRun

variable {validate : D → List String} {run next : CacheRun D} {action : VaultAction D}

theorem ownCaches_of_cleared (cleared : run.state.vault.Cleared)
    (uses : ∀ use ∈ run.origins.uses, use.1 = use.2) : run.OwnCaches where
  opened session installed := by
    rw [cleared.session] at installed
    cases installed
  item itemId cached := by
    rw [cleared.itemCache] at cached
    cases cached
  revision itemId cached := by
    rw [cleared.revisionCache] at cached
    cases cached
  uses := uses

theorem ownCaches_call (own : run.OwnCaches) (t : Nat) (call : Call D)
    (stepped : run.step validate (.call t call) = some next) : next.OwnCaches := by
  simp only [step, VaultRun.step, Option.map_eq_some_iff] at stepped
  rcases stepped with ⟨state, stepped, rfl⟩
  split at stepped <;> cases stepped
  -- a delete seals an item of the installed session
  have uses : ∀ use ∈ (run.noteCall t call).uses, use.1 = use.2 := by
    intro use member
    rcases List.mem_append.mp member with before | sealed
    · exact own.uses use before
    · rcases List.mem_map.mp sealed with ⟨itemId, found, rfl⟩
      rw [Option.mem_toList] at found
      have cached : (run.state.vault.itemCache.get itemId).isSome = true := by
        cases call with
        | deleteItem deleted =>
            simp only [VaultSession.sealsItem] at found
            split at found <;> cases found
            rename_i data known
            rw [known]
            rfl
        | _ => cases found
      exact (own.item itemId cached).2
  rcases VaultSession.start_caches validate run.state.vault call with cleared | same
  · apply ownCaches_of_cleared
    · change (run.state.vault.start validate call).vault.Cleared
      rw [cleared]
      exact VaultSession.cleared_cleared run.state.vault
    · exact uses
  · rcases same with ⟨session, bundle, itemCache, revisionCache⟩
    constructor
    · intro found installed
      change (run.state.vault.start validate call).vault.session = some found at installed
      rw [session] at installed
      rcases own.opened found installed with ⟨opened, known, last⟩
      exact ⟨opened, bundle.trans known, last⟩
    · intro itemId cached
      change ((run.state.vault.start validate call).vault.itemCache.get itemId).isSome = true
        at cached
      change (run.state.vault.start validate call).vault.session.isSome = true ∧ _
      rw [session]
      rw [itemCache] at cached
      exact own.item itemId cached
    · intro itemId cached
      change ((run.state.vault.start validate call).vault.revisionCache.get itemId).isSome = true
        at cached
      change (run.state.vault.start validate call).vault.session.isSome = true ∧ _
      rw [session]
      rw [revisionCache] at cached
      exact own.revision itemId cached
    · exact uses

def resumed (run : CacheRun D) (t : Nat) (task : Task D) (answer : Answer D)
    (progress : Progress D) : CacheRun D where
  state := { run.state.advance t progress with
    opened := run.state.openedByResume task answer
    lockResolved := run.state.lockResolvedByResume task answer }
  origins := run.noteResume t task answer

theorem step_resume {t : Nat} {answer : Answer D} :
    run.step validate (.resume t answer) = some next ↔
      ∃ task progress, run.state.tasks t = some task ∧
        run.state.vault.resume task answer = some progress ∧
        next = run.resumed t task answer progress := by
  simp only [step, VaultRun.step, note]
  cases suspended : run.state.tasks t with
  | none => simp
  | some task =>
      cases progressed : run.state.vault.resume task answer with
      | none => simp [progressed]
      | some progress =>
          simp only [progressed, Option.map_some, Option.some.injEq, resumed]
          constructor
          · rintro rfl
            exact ⟨task, progress, rfl, progressed, rfl⟩
          · rintro ⟨_, _, rfl, same, rfl⟩
            rw [progressed] at same
            cases same
            rfl

theorem ownCaches_locking (own : run.OwnCaches) {t : Nat} {answer : Answer D}
    {progress : Progress D}
    (resumed : run.state.vault.resume .locking answer = some progress) :
    (run.resumed t .locking answer progress).OwnCaches := by
  apply ownCaches_of_cleared
  · cases answer <;> cases resumed <;> exact VaultSession.cleared_cleared run.state.vault
  · intro use member
    simp only [CacheRun.resumed, noteResume, VaultSession.takesRevision, Option.toList_none,
      List.map_nil, List.append_nil] at member
    exact own.uses use member

theorem ownCaches_install (own : run.OwnCaches) {t session : Nat} {bundle : AccountBundle}
    {progress : Progress D}
    (resumed : run.state.vault.resume (.unlocking bundle) (.session session) = some progress) :
    (run.resumed t (.unlocking bundle) (.session session) progress).OwnCaches ↔
      ∀ itemId, run.state.vault.itemCache.get itemId = none ∧
        run.state.vault.revisionCache.get itemId = none := by
  cases resumed
  set next := run.resumed t (.unlocking bundle) (.session session)
    (VaultSession.startLoad
      { run.state.vault with session := some session, bundle := some bundle }) with next_eq
  have vault : next.state.vault =
      { run.state.vault with session := some session, bundle := some bundle } :=
    VaultSession.startLoad_vault _
  have number : next.installed = run.installed + 1 := by
    simp [next_eq, CacheRun.resumed, installed, VaultRun.openedByResume]
  constructor
  · intro kept itemId
    constructor
    · rw [← Option.not_isSome_iff_eq_none]
      intro cached
      have after := (kept.item itemId (by rw [vault]; exact cached)).2
      have before : next.origins.item itemId = run.installed := (own.item itemId cached).2
      omega
    · rw [← Option.not_isSome_iff_eq_none]
      intro cached
      have after := (kept.revision itemId (by rw [vault]; exact cached)).2
      have before : next.origins.revision itemId = run.installed :=
        (own.revision itemId cached).2
      omega
  · intro empty
    constructor
    · intro found installed
      rw [vault] at installed
      cases installed
      refine ⟨bundle, by rw [vault], ?_⟩
      exact List.getLast?_concat
    · intro itemId cached
      rw [vault] at cached
      rw [(empty itemId).1] at cached
      cases cached
    · intro itemId cached
      rw [vault] at cached
      rw [(empty itemId).2] at cached
      cases cached
    · intro use member
      simp only [next_eq, CacheRun.resumed, noteResume, VaultSession.takesRevision,
        Option.toList_none, List.map_nil, List.append_nil] at member
      exact own.uses use member

theorem openedByResume_of_noInstall (state : VaultRun D) {task : Task D} {answer : Answer D}
    (noInstall : task.installs answer = false) :
    state.openedByResume task answer = state.opened := by
  cases task <;> cases answer <;> first | rfl | cases noInstall

theorem takesRevision_cached {vault : VaultSession D} {task : Task D} {answer : Answer D}
    {itemId : Id} (takes : vault.takesRevision task answer = some itemId) :
    (vault.revisionCache.get itemId).isSome = true := by
  unfold VaultSession.takesRevision at takes
  split at takes <;> first | cases takes | skip
  all_goals
    split at takes <;> cases takes
    assumption

-- Both kinds of writes look at the generation, which a locked vault never has.
theorem unlocked_of_current {vault : VaultSession D} {generation : Nat}
    (current : vault.isGenerationCurrent generation = true) : vault.session.isSome = true := by
  rw [VaultSession.isGenerationCurrent, Bool.and_eq_true] at current
  exact current.2

theorem unlocked_of_writesItem {vault : VaultSession D} {task : Task D} {answer : Answer D}
    {itemId : Id} (writes : vault.writesItem task answer = some itemId) :
    vault.session.isSome = true := by
  unfold VaultSession.writesItem at writes
  split at writes <;> first | cases writes | skip
  all_goals
    split at writes <;> cases writes
    rename_i current
    exact unlocked_of_current current

theorem unlocked_of_writesRevisions {vault : VaultSession D} {task : Task D} {answer : Answer D}
    {itemId : Id} (writes : itemId ∈ vault.writesRevisions task answer) :
    vault.session.isSome = true := by
  unfold VaultSession.writesRevisions at writes
  split at writes <;> first | cases writes | skip
  all_goals
    split at writes <;> first | cases writes | skip
    rename_i current
    exact unlocked_of_current current

theorem ownCaches_resume (own : run.OwnCaches) {t : Nat} {task : Task D} {answer : Answer D}
    {progress : Progress D} (resumed : run.state.vault.resume task answer = some progress)
    (noInstall : task.installs answer = false) (noLock : task ≠ .locking) :
    (run.resumed t task answer progress).OwnCaches ↔
      (run.state.vault.writesItem task answer ≠ none ∨
        run.state.vault.writesRevisions task answer ≠ [] ∨
        run.state.vault.takesRevision task answer ≠ none →
          run.origins.task t = run.installed) := by
  have effects := VaultSession.resume_effects resumed noInstall noLock
  have opened := openedByResume_of_noInstall run.state noInstall
  have number : (run.resumed t task answer progress).installed = run.installed := by
    simp only [installed, CacheRun.resumed, opened]
  constructor
  · intro kept writes
    rcases writes with item | revisions | takes
    · rcases Option.ne_none_iff_exists'.mp item with ⟨itemId, written⟩
      have after := (kept.item itemId ((effects.item itemId).mpr (Or.inr written))).2
      rw [number] at after
      simpa [CacheRun.resumed, noteResume, written] using after
    · rcases List.exists_mem_of_ne_nil _ revisions with ⟨itemId, noted⟩
      have after := (kept.revision itemId ((effects.revision itemId).mpr (Or.inr noted))).2
      rw [number] at after
      simpa [CacheRun.resumed, noteResume, noted] using after
    · rcases Option.ne_none_iff_exists'.mp takes with ⟨itemId, taken⟩
      have used := kept.uses (run.origins.revision itemId, run.origins.task t) (by
        simp [CacheRun.resumed, noteResume, taken])
      exact used.symm.trans (own.revision itemId (takesRevision_cached taken)).2
  · intro apart
    constructor
    · intro session installed
      change progress.vault.session = some session at installed
      rw [effects.same.session] at installed
      rcases own.opened session installed with ⟨bundle, known, last⟩
      refine ⟨bundle, effects.same.bundle.trans known, ?_⟩
      change (run.state.openedByResume task answer).getLast? = _
      rw [opened]
      exact last
    · intro itemId cached
      rw [number]
      change progress.vault.session.isSome = true ∧
        (if run.state.vault.writesItem task answer = some itemId then run.origins.task t
          else run.origins.item itemId) = run.installed
      rw [effects.same.session]
      split
      · rename_i written
        exact ⟨unlocked_of_writesItem written, apart (Or.inl (by simp [written]))⟩
      · rename_i kept
        rcases (effects.item itemId).mp cached with before | written
        · exact own.item itemId before
        · exact absurd written kept
    · intro itemId cached
      rw [number]
      change progress.vault.session.isSome = true ∧
        (if itemId ∈ run.state.vault.writesRevisions task answer then run.origins.task t
          else run.origins.revision itemId) = run.installed
      rw [effects.same.session]
      split
      · rename_i noted
        exact ⟨unlocked_of_writesRevisions noted,
          apart (Or.inr (Or.inl (List.ne_nil_of_mem noted)))⟩
      · rename_i kept
        rcases (effects.revision itemId).mp cached with before | noted
        · exact own.revision itemId before
        · exact absurd noted kept
    · intro use member
      simp only [CacheRun.resumed, noteResume, List.mem_append, List.mem_map,
        Option.mem_toList] at member
      rcases member with before | ⟨itemId, taken, rfl⟩
      · exact own.uses use before
      · have cached := (own.revision itemId (takesRevision_cached taken)).2
        have same := apart (Or.inr (Or.inr (by simp [taken])))
        exact cached.trans same.symm

theorem ownCaches_step (own : run.OwnCaches) (stepped : run.step validate action = some next) :
    next.OwnCaches ↔ run.keepsApart action := by
  cases action with
  | call t call => exact iff_of_true (ownCaches_call own t call stepped) trivial
  | resume t answer =>
      rcases step_resume.mp stepped with ⟨task, progress, suspended, resumed, rfl⟩
      have only : run.keepsApart (.resume t answer) ↔
          (task.installs answer = true → ∀ itemId, run.state.vault.itemCache.get itemId = none ∧
            run.state.vault.revisionCache.get itemId = none) ∧
          (run.state.vault.writesItem task answer ≠ none ∨
            run.state.vault.writesRevisions task answer ≠ [] ∨
            run.state.vault.takesRevision task answer ≠ none →
              run.origins.task t = run.installed) := by
        simp only [keepsApart, suspended, Option.some.injEq, forall_eq']
      rw [only]
      by_cases lock : task = .locking
      · subst lock
        refine iff_of_true (ownCaches_locking own resumed) ⟨(fun installs => by cases installs), ?_⟩
        rintro (writes | writes | takes)
        · exact absurd rfl writes
        · exact absurd rfl writes
        · exact absurd rfl takes
      · cases install : task.installs answer with
        | false => simp only [ownCaches_resume own resumed install lock, Bool.false_eq_true,
            false_imp_iff, true_and]
        | true =>
            cases task with
            | unlocking bundle =>
                cases answer with
                | session session =>
                    rw [ownCaches_install own resumed]
                    simp [VaultSession.writesItem, VaultSession.writesRevisions,
                      VaultSession.takesRevision]
                | _ => cases install
            | _ => cases install

/-- In every interleaving of the session's methods, the caches are the installed session's own
throughout exactly when every session is installed over empty caches and no call writes or takes
a revision once another session than its own is installed. -/
theorem web_cache_provenance (validate : D → List String) (actions : List (VaultAction D)) :
    Always (step validate) OwnCaches initial actions ↔
      Every (step validate) keepsApart initial actions := by
  apply always_iff_every (fun _ => True)
  · intro _ _ _ _ _
    trivial
  · intro run action next _ own stepped
    exact ownCaches_step own stepped
  · trivial
  · apply ownCaches_of_cleared
    · exact ⟨rfl, rfl, rfl, rfl⟩
    · intro use member
      cases member

end CacheRun

section Samples

def otherBundle : AccountBundle := ⟨"other account", "other vault"⟩

def switchWithoutLock : List (VaultAction String) :=
  [.call 1 (.unlockWithPassword sampleBundle), .resume 1 (.session 7),
    .resume 1 (.records [sampleRecord 1]), .resume 1 (.opened (some "secret")),
    .resume 1 (.queue []), .call 2 (.unlockWithPassword otherBundle), .resume 2 (.session 8)]

/-- The second session is installed over the item of the first. -/
theorem switch_without_lock_shows_item :
    ¬ ∀ actions : List (VaultAction String),
      Always (CacheRun.step fun _ => []) CacheRun.OwnCaches CacheRun.initial actions := by
  intro holds
  have always := holds switchWithoutLock
  have own := always.at_end (run_reached (by decide +kernel))
  have shown := own.item "item" (by decide +kernel)
  exact absurd shown.2 (by decide +kernel)

end Samples

end ZenPass.Web
