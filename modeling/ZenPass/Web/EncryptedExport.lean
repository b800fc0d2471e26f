import ZenPass.Web.ClientRun

set_option autoImplicit false

namespace ZenPass.Web

open KeyedStore Sdk Transition

variable {σ κ D : Type}

namespace VaultSession

def Visible (vault : VaultSession D) (itemId : Id) : Prop :=
  (vault.getItemData itemId).isSome = true

def markedRecords (records : List ItemRecord) : List Id :=
  (records.takeWhile ItemRecord.deleted).map ItemRecord.itemId

def markedQueued (vaultId : Id) (entries : List QueuedMutation) : List Id :=
  ((entries.filter (overlays vaultId)).takeWhile fun entry => entry.mutation.deleted).map
    fun entry => entry.mutation.itemId

def showsItem (vault : VaultSession D) : Task D → Answer D → Option Id
  | .openingRecord load itemId rest, .opened (some _) =>
      if vault.isGenerationCurrent load.generation ∧ itemId ∉ vault.deletedLocally ∧
        itemId ∉ markedRecords rest then some itemId else none
  | .openingQueued load itemId rest, .opened (some _) =>
      if vault.isGenerationCurrent load.generation ∧
        itemId ∉ markedQueued load.bundle.vaultId rest then some itemId else none
  | .enqueuingSave generation itemId _, .done | .resolving generation itemId _, .done =>
      if vault.isGenerationCurrent generation then some itemId else none
  | .dequeuingUndo itemId, .done =>
      if vault.session.isSome ∧ (vault.itemCache.get itemId).isSome then some itemId else none
  | _, _ => none

variable {vault after : VaultSession D}

theorem visible_iff {itemId : Id} :
    vault.Visible itemId ↔ vault.session.isSome = true ∧ itemId ∉ vault.deletedLocally ∧
      (vault.itemCache.get itemId).isSome = true := by
  unfold Visible getItemData
  cases vault.session with
  | none => simp
  | some session =>
      by_cases marked : itemId ∈ vault.deletedLocally <;> simp [marked]

structure Visibility (vault : VaultSession D) (shows writes : Option Id)
    (after : VaultSession D) : Prop where
  visible : ∀ itemId, after.Visible itemId →
    shows = some itemId ∨ vault.Visible itemId ∧ writes ≠ some itemId
  shows : ∀ itemId, shows = some itemId → after.Visible itemId

theorem Visibility.refl (vault : VaultSession D) : vault.Visibility none none vault where
  visible _ visible := .inr ⟨visible, nofun⟩
  shows := nofun

theorem Effects.visibility {item shows : Option Id} {revisions : List Id}
    (effects : vault.Effects item revisions after)
    (unmarked : ∀ itemId, itemId ∉ after.deletedLocally → shows = some itemId ∨
      itemId ∉ vault.deletedLocally ∧ item ≠ some itemId)
    (shown : ∀ itemId, shows = some itemId → vault.session.isSome = true ∧
      itemId ∉ after.deletedLocally ∧
      ((vault.itemCache.get itemId).isSome = true ∨ item = some itemId)) :
    vault.Visibility shows item after := by
  constructor
  · intro itemId visible
    obtain ⟨unlocked, notMarked, cached⟩ := visible_iff.mp visible
    rw [effects.same.session] at unlocked
    rcases unmarked itemId notMarked with shows | ⟨before, kept⟩
    · exact .inl shows
    · have stored := ((effects.item itemId).mp cached).resolve_right kept
      exact .inr ⟨visible_iff.mpr ⟨unlocked, before, stored⟩, kept⟩
  · intro itemId shows
    obtain ⟨unlocked, notMarked, cached⟩ := shown itemId shows
    rw [visible_iff, effects.same.session, effects.item]
    exact ⟨unlocked, notMarked, cached⟩

theorem Effects.hides {revisions : List Id} (effects : vault.Effects none revisions after)
    (grown : ∀ itemId, itemId ∉ after.deletedLocally → itemId ∉ vault.deletedLocally) :
    vault.Visibility none none after :=
  effects.visibility (fun itemId unmarked => .inr ⟨grown itemId unmarked, nofun⟩) nofun

theorem mem_deletedLocally_nextRecord (load : Load) (records : List ItemRecord)
    (vault : VaultSession D) (itemId : Id) :
    itemId ∈ (vault.nextRecord load records).vault.deletedLocally ↔
      itemId ∈ vault.deletedLocally ∨
        vault.isGenerationCurrent load.generation = true ∧ itemId ∈ markedRecords records := by
  induction records generalizing vault with
  | nil =>
      unfold nextRecord
      split <;> simp [markedRecords]
  | cons record rest ih =>
      unfold nextRecord
      split
      · rename_i current
        by_cases deleted : record.deleted = true
        · have later : ({ vault with
              revisionCache := vault.revisionCache.set record.itemId record.revision } :
                VaultSession D).addDeleted record.itemId |>.isGenerationCurrent load.generation :=
            current
          simp only [deleted, if_true, ih, later, markedRecords, List.takeWhile_cons,
            List.map_cons, List.mem_cons, true_and, current]
          simp only [addDeleted, List.mem_insert_iff]
          tauto
        · simp [deleted, markedRecords]
      · rename_i stale
        simp [stale]

theorem mem_deletedLocally_nextQueued (load : Load) (entries : List QueuedMutation)
    (vault : VaultSession D) (itemId : Id) :
    itemId ∈ (vault.nextQueued load entries).vault.deletedLocally ↔
      itemId ∈ vault.deletedLocally ∨ vault.isGenerationCurrent load.generation = true ∧
        itemId ∈ markedQueued load.bundle.vaultId entries := by
  induction entries generalizing vault with
  | nil => simp [nextQueued, markedQueued]
  | cons entry rest ih =>
      unfold nextQueued
      split
      · rename_i current
        by_cases applies : overlays load.bundle.vaultId entry = true
        · have applied : ¬ (entry.state = .conflict ∨
              entry.mutation.vaultId ≠ load.bundle.vaultId) := by
            simpa [overlays] using applies
          rw [if_neg applied]
          by_cases deleted : entry.mutation.deleted = true
          · have later : (vault.addDeleted entry.mutation.itemId).isGenerationCurrent
                load.generation := current
            simp only [deleted, if_true, ih, later, markedQueued, List.filter_cons, applies,
              List.takeWhile_cons, List.map_cons, List.mem_cons, true_and, current]
            simp only [addDeleted, List.mem_insert_iff]
            tauto
          · simp [deleted, markedQueued, applies]
        · have skipped : entry.state = .conflict ∨
              entry.mutation.vaultId ≠ load.bundle.vaultId := by
            by_contra applied
            exact applies (by simpa [overlays] using applied)
          rw [if_pos skipped, ih]
          simp [markedQueued, applies, current]
      · rename_i stale
        simp [stale]

theorem finishEdit_visibility (vault : VaultSession D) (generation : Nat) (itemId : Id) (data : D) :
    vault.Visibility (if vault.isGenerationCurrent generation then some itemId else none)
      (if vault.isGenerationCurrent generation then some itemId else none)
      (vault.finishEdit generation itemId data) := by
  have effects := finishEdit_effects vault generation itemId data
  by_cases current : vault.isGenerationCurrent generation = true
  · simp only [current, if_true] at effects ⊢
    have saved : vault.finishEdit generation itemId data = vault.saved itemId data := if_pos current
    refine effects.visibility (fun other unmarked => ?_) (fun other shows => ?_)
    · rw [saved] at unmarked
      by_cases same : itemId = other
      · exact .inl (congrArg some same)
      · refine .inr ⟨fun marked => unmarked ?_, fun write => same (Option.some.inj write)⟩
        simp only [VaultSession.saved, undelete, cache, List.mem_filter]
        exact ⟨marked, decide_eq_true (Ne.symm same)⟩
    · obtain rfl : itemId = other := Option.some.inj shows
      rw [saved]
      exact ⟨CacheRun.unlocked_of_current current, by simp [VaultSession.saved, undelete], .inr rfl⟩
  · simp only [current, if_false, Bool.false_eq_true]
    rw [show vault.finishEdit generation itemId data = vault from if_neg current]
    exact Visibility.refl vault

theorem openingRecord_visibility (load : Load) (itemId : Id) (rest : List ItemRecord) (data : D)
    (current : vault.isGenerationCurrent load.generation = true) :
    vault.Visibility (vault.showsItem (.openingRecord load itemId rest) (.opened (some data)))
      (some itemId) ((vault.cache itemId data).nextRecord load rest).vault := by
  have effects := (Effects.cache vault itemId data).trans
    (nextRecord_effects load rest (vault.cache itemId data))
  have marked (other : Id) := mem_deletedLocally_nextRecord load rest (vault.cache itemId data) other
  have later : (vault.cache itemId data).isGenerationCurrent load.generation = true := current
  simp only [later, true_and] at marked
  refine effects.visibility (fun other unmarked => ?_) (fun other shows => ?_)
  · rw [marked, not_or] at unmarked
    by_cases same : itemId = other
    · subst same
      exact .inl (if_pos ⟨current, unmarked⟩)
    · exact .inr ⟨unmarked.1, fun write => same (Option.some.inj write)⟩
  · obtain ⟨⟨-, unmarked⟩, same⟩ := Option.ite_none_right_eq_some.mp shows
    obtain rfl : itemId = other := Option.some.inj same
    rw [marked, not_or]
    exact ⟨CacheRun.unlocked_of_current current, unmarked, .inr rfl⟩

theorem openingQueued_visibility (load : Load) (itemId : Id) (rest : List QueuedMutation) (data : D)
    (current : vault.isGenerationCurrent load.generation = true) :
    vault.Visibility (vault.showsItem (.openingQueued load itemId rest) (.opened (some data)))
      (some itemId) (((vault.cache itemId data).undelete itemId).nextQueued load rest).vault := by
  have effects := ((Effects.cache vault itemId data).undelete itemId).trans
    (nextQueued_effects load rest ((vault.cache itemId data).undelete itemId))
  have marked (other : Id) :=
    mem_deletedLocally_nextQueued load rest ((vault.cache itemId data).undelete itemId) other
  have later : ((vault.cache itemId data).undelete itemId).isGenerationCurrent load.generation =
      true := current
  simp only [later, true_and] at marked
  refine effects.visibility (fun other unmarked => ?_) (fun other shows => ?_)
  · rw [marked, not_or] at unmarked
    by_cases same : itemId = other
    · subst same
      exact .inl (if_pos ⟨current, unmarked.2⟩)
    · refine .inr ⟨fun before => unmarked.1 ?_, fun write => same (Option.some.inj write)⟩
      simp only [undelete, cache, List.mem_filter]
      exact ⟨before, decide_eq_true (Ne.symm same)⟩
  · obtain ⟨⟨-, unmarked⟩, same⟩ := Option.ite_none_right_eq_some.mp shows
    obtain rfl : itemId = other := Option.some.inj same
    rw [marked, not_or]
    exact ⟨CacheRun.unlocked_of_current current, ⟨by simp [undelete], unmarked⟩, .inr rfl⟩

theorem undelete_visibility (vault : VaultSession D) (itemId : Id) :
    vault.Visibility (vault.showsItem (.dequeuingUndo itemId) .done) none
      (vault.undelete itemId) := by
  constructor
  · intro other visible
    obtain ⟨unlocked, unmarked, cached⟩ := visible_iff.mp visible
    by_cases same : itemId = other
    · subst same
      exact .inl (if_pos ⟨unlocked, cached⟩)
    · refine .inr ⟨visible_iff.mpr ⟨unlocked, fun before => unmarked ?_, cached⟩, nofun⟩
      simp only [undelete, List.mem_filter]
      exact ⟨before, decide_eq_true (Ne.symm same)⟩
  · intro other shows
    obtain ⟨⟨unlocked, cached⟩, same⟩ := Option.ite_none_right_eq_some.mp shows
    obtain rfl : itemId = other := Option.some.inj same
    exact visible_iff.mpr ⟨unlocked, by simp [undelete], cached⟩

theorem resume_visibility {task : Task D} {answer : Answer D} {progress : Progress D}
    (resumed : vault.resume task answer = some progress) (noInstall : task.installs answer = false)
    (noLock : task ≠ .locking) :
    vault.Visibility (vault.showsItem task answer) (vault.writesItem task answer)
      progress.vault := by
  cases task with
  | unlocking bundle =>
      cases answer <;> cases resumed
      · cases noInstall
      · exact Visibility.refl vault
  | listing load =>
      cases answer <;> cases resumed
      · refine (nextRecord_effects load _ vault).hides fun itemId unmarked before => unmarked ?_
        exact (mem_deletedLocally_nextRecord load _ vault itemId).mpr (.inl before)
      · exact Visibility.refl vault
  | openingRecord load itemId rest =>
      cases answer with
      | opened data =>
          cases data with
          | none =>
              cases resumed
              refine (nextRecord_effects load _ vault).hides fun itemId unmarked before => unmarked ?_
              exact (mem_deletedLocally_nextRecord load _ vault itemId).mpr (.inl before)
          | some data =>
              simp only [resume] at resumed
              split at resumed
              · rename_i current
                cases resumed
                rw [show vault.writesItem (.openingRecord load itemId rest) (.opened (some data)) =
                  some itemId from if_pos current]
                exact openingRecord_visibility load itemId rest data current
              · rename_i stale
                cases resumed
                simp only [showsItem, writesItem, stale, false_and, if_false, Bool.false_eq_true]
                exact Visibility.refl vault
      | failed =>
          cases resumed
          exact Visibility.refl vault
      | _ => cases resumed
  | listingQueue load =>
      cases answer with
      | queue entries =>
          simp only [resume] at resumed
          split at resumed <;> cases resumed
          · refine (nextQueued_effects load _ vault).hides fun itemId unmarked before => unmarked ?_
            exact (mem_deletedLocally_nextQueued load _ vault itemId).mpr (.inl before)
          · exact Visibility.refl vault
      | failed =>
          cases resumed
          exact Visibility.refl vault
      | _ => cases resumed
  | openingQueued load itemId rest =>
      cases answer with
      | opened data =>
          cases data with
          | none =>
              cases resumed
              refine (nextQueued_effects load _ vault).hides fun itemId unmarked before => unmarked ?_
              exact (mem_deletedLocally_nextQueued load _ vault itemId).mpr (.inl before)
          | some data =>
              simp only [resume] at resumed
              split at resumed
              · rename_i current
                cases resumed
                rw [show vault.writesItem (.openingQueued load itemId rest) (.opened (some data)) =
                  some itemId from if_pos current]
                exact openingQueued_visibility load itemId rest data current
              · rename_i stale
                cases resumed
                simp only [showsItem, writesItem, stale, false_and, if_false, Bool.false_eq_true]
                exact Visibility.refl vault
      | failed =>
          cases resumed
          exact Visibility.refl vault
      | _ => cases resumed
  | enqueuingSave generation itemId data | resolving generation itemId data =>
      cases answer <;> cases resumed
      · exact finishEdit_visibility vault generation itemId data
      · exact Visibility.refl vault
  | sealingSave | sealingDelete | sealingResolution =>
      cases answer <;> cases resumed <;> exact Visibility.refl vault
  | enqueuingDelete itemId =>
      cases answer <;> cases resumed
      · refine (tombstoned_effects vault itemId).hides fun other unmarked before => unmarked ?_
        have grown : other ∈ (vault.addDeleted itemId).deletedLocally :=
          List.mem_insert_of_mem before
        unfold tombstoned
        dsimp only
        split <;> exact grown
      · exact Visibility.refl vault
  | readingUndo mutationId itemId =>
      cases answer with
      | queued entry =>
          cases entry with
          | none =>
              cases resumed
              exact Visibility.refl vault
          | some entry =>
              simp only [resume] at resumed
              split at resumed <;> cases resumed <;> exact Visibility.refl vault
      | failed =>
          cases resumed
          exact Visibility.refl vault
      | _ => cases resumed
  | dequeuingUndo itemId =>
      cases answer <;> cases resumed
      · exact undelete_visibility vault itemId
      · exact Visibility.refl vault
  | locking => exact absurd rfl noLock

theorem not_visible_cleared (vault : VaultSession D) (itemId : Id) :
    ¬ vault.cleared.Visible itemId := by
  intro visible
  cases (visible_iff.mp visible).1

end VaultSession

section Definitions

variable (repo : LocalRepository σ ItemRecord RecordConflictError) (slot : Id → Id → κ)

def Confirmed (state : σ) (vaultId itemId : Id) (ciphertext : String) : Prop :=
  ∃ record, repo.getItem state vaultId itemId = some record ∧ record.vaultId = vaultId ∧
    record.itemId = itemId ∧ record.ciphertext = ciphertext ∧ record.deleted = false

namespace ClientRun

/-- The export of an unlocked client has the confirmed records of its vault and nothing else. -/
def ExportsConfirmed (run : ClientRun σ D) : Prop :=
  run.vault.session.isSome = true → ∃ bundle archive, run.vault.bundle = some bundle ∧
    buildEncryptedExport repo run.engine.repo run.vault = some archive ∧
    archive.vaultId = bundle.vaultId ∧ ∀ record, record ∈ archive.items ↔
      record.vaultId = bundle.vaultId ∧
        repo.getItem run.engine.repo bundle.vaultId record.itemId = some record

/-- For every item that is visible, the export has the visible version and no other. -/
def ExportComplete (run : ClientRun σ D) : Prop :=
  ∀ itemId, run.vault.Visible itemId →
    ∃ archive, buildEncryptedExport repo run.engine.repo run.vault = some archive ∧
      (∃ record ∈ archive.items, record.itemId = itemId ∧
        record.ciphertext = run.versions itemId ∧ record.deleted = false) ∧
      ∀ record ∈ archive.items, record.itemId = itemId →
        record.ciphertext = run.versions itemId

/-- What the resumption brings into view is confirmed. A session that is installed brings all that
is cached, and not marked as deleted, into view of its own vault. -/
def resumesConfirmed (run : ClientRun σ D) (before : Suspension D) (answer : Answer D) : Prop :=
  match before.task, answer with
  | .unlocking bundle, .session _ =>
      ∀ itemId, itemId ∉ run.vault.deletedLocally →
        (run.vault.itemCache.get itemId).isSome = true →
        Confirmed repo run.engine.repo bundle.vaultId itemId (run.versions itemId)
  | task, answer =>
      ∀ itemId, run.vault.showsItem task answer = some itemId → ∀ bundle,
        run.vault.bundle = some bundle →
        Confirmed repo run.engine.repo bundle.vaultId itemId
          (if run.vault.writesItem task answer = some itemId then before.ciphertext
            else run.versions itemId)

/-- The record that is stored is what the session shows in its place. -/
def putsShown (run : ClientRun σ D) (item : ItemRecord) : Prop :=
  (repo.putItem run.engine.repo item).isOk = true → ∀ bundle, run.vault.bundle = some bundle →
    ∀ itemId, run.vault.Visible itemId →
      slot bundle.vaultId itemId = slot item.vaultId item.itemId →
      item.vaultId = bundle.vaultId ∧ item.itemId = itemId ∧
        item.ciphertext = run.versions itemId ∧ item.deleted = false

def keepsComplete (backoff : BackoffOptions) (run : ClientRun σ D) : ClientStep D → Prop
  | .resume t => ∀ before answer, run.calls t = some before → before.settled = some answer →
      run.resumesConfirmed repo before answer
  | .worker t answer => ∀ before, run.calls t = some before →
      run.resumesConfirmed repo before answer
  | .engine (.perform t) => ∀ task item, run.engine.tasks t = some ⟨task, none⟩ →
      task.operation backoff = some (.putItem (.record item)) → run.putsShown repo slot item
  | _ => True

def answersGenuinely (openPayload : Nat → AccountBundle → Id → String → Option D)
    (before : Suspension D) (answer : Answer D) : Prop :=
  match before.task, answer with
  | .openingRecord load itemId _, .opened (some data)
  | .openingQueued load itemId _, .opened (some data) =>
      openPayload load.session load.bundle itemId before.ciphertext = some data
  | .sealingSave _ bundle itemId data, .envelope _ envelope =>
      ∃ session, openPayload session bundle itemId (Wire.encodeB64 envelope) = some data
  | .sealingResolution _ bundle conflict data, .envelope _ envelope =>
      ∃ session, openPayload session bundle conflict.current.itemId (Wire.encodeB64 envelope) =
        some data
  | _, _ => True

def genuine (openPayload : Nat → AccountBundle → Id → String → Option D) (run : ClientRun σ D) :
    ClientStep D → Prop
  | .worker t answer => ∀ before, run.calls t = some before →
      answersGenuinely openPayload before answer
  | _ => True

/-- What is shown of each item can be had from the export again. -/
def Restorable (openPayload : Nat → AccountBundle → Id → String → Option D)
    (run : ClientRun σ D) : Prop :=
  ∀ itemId data, run.vault.getItemData itemId = some data →
    ∃ archive, buildEncryptedExport repo run.engine.repo run.vault = some archive ∧
      ∃ record ∈ archive.items, record.itemId = itemId ∧ record.deleted = false ∧
        ∃ session bundle, openPayload session bundle itemId record.ciphertext = some data

structure Sound (kept : σ → Prop) (run : ClientRun σ D) : Prop where
  kept : kept run.engine.repo
  bundle : run.vault.session.isSome = true → run.vault.bundle.isSome = true

end ClientRun

end Definitions

section Proofs

variable {repo : LocalRepository σ ItemRecord RecordConflictError} {slot : Id → Id → κ}
  {kept : σ → Prop} {backoff : BackoffOptions} {vaultOf : Body → Id} {validate : D → List String}

theorem Confirmed.of_same {state next : σ} {vaultId itemId : Id} {ciphertext : String}
    (same : repo.getItem next vaultId itemId = repo.getItem state vaultId itemId) :
    Confirmed repo next vaultId itemId ciphertext ↔
      Confirmed repo state vaultId itemId ciphertext := by
  rw [Confirmed, Confirmed, same]

theorem ClientRun.exportComplete_iff {run : ClientRun σ D} (laws : repo.RecordLaws kept)
    (sound : run.Sound kept) :
    run.ExportComplete repo ↔ ∀ itemId, run.vault.Visible itemId → ∀ bundle,
      run.vault.bundle = some bundle →
      Confirmed repo run.engine.repo bundle.vaultId itemId (run.versions itemId) := by
  constructor
  · intro complete itemId visible bundle installed
    obtain ⟨archive, built, ⟨record, member, rfl, ciphertext, live⟩, -⟩ := complete itemId visible
    rw [buildEncryptedExport, installed, Option.map_some] at built
    cases built
    obtain ⟨vault, stored⟩ := (laws.mem_listItems _ sound.kept _ _).mp member
    exact ⟨record, stored, vault, rfl, ciphertext, live⟩
  · intro confirmed itemId visible
    obtain ⟨bundle, installed⟩ := Option.isSome_iff_exists.mp
      (sound.bundle (VaultSession.visible_iff.mp visible).1)
    obtain ⟨record, stored, vault, rfl, ciphertext, live⟩ := confirmed itemId visible bundle installed
    refine ⟨_, by rw [buildEncryptedExport, installed, Option.map_some],
      ⟨record, (laws.mem_listItems _ sound.kept _ _).mpr ⟨vault, stored⟩, rfl, ciphertext, live⟩, ?_⟩
    intro other member same
    obtain ⟨-, found⟩ := (laws.mem_listItems _ sound.kept _ _).mp member
    rw [same, stored] at found
    cases found
    exact ciphertext

theorem ClientRun.exportsConfirmed {run : ClientRun σ D} (laws : repo.RecordLaws kept)
    (sound : run.Sound kept) : run.ExportsConfirmed repo := by
  intro unlocked
  obtain ⟨bundle, installed⟩ := Option.isSome_iff_exists.mp (sound.bundle unlocked)
  refine ⟨bundle, _, installed, by rw [buildEncryptedExport, installed, Option.map_some], rfl, ?_⟩
  exact fun record => laws.mem_listItems _ sound.kept _ _

namespace ClientRun

variable {run next : ClientRun σ D}

theorem goOn_eq_some {t : Nat} {before : Suspension D} {answer : Answer D} :
    run.goOn t before answer = some next ↔ ∃ progress,
      run.vault.resume before.task answer = some progress ∧
        next = run.resumed t before answer progress := by
  rw [goOn, Option.map_eq_some_iff]
  exact exists_congr fun _ => and_congr_right fun _ => eq_comm

theorem sound_goOn (sound : run.Sound kept) {t : Nat} {before : Suspension D} {answer : Answer D}
    (went : run.goOn t before answer = some next) : next.Sound kept := by
  obtain ⟨progress, resumed, rfl⟩ := goOn_eq_some.mp went
  refine ⟨sound.kept, ?_⟩
  change progress.vault.session.isSome = true → progress.vault.bundle.isSome = true
  by_cases lock : before.task = .locking
  · rw [lock] at resumed
    cases answer <;> cases resumed <;> exact nofun
  · cases install : before.task.installs answer with
    | false =>
        have same := (VaultSession.resume_effects resumed install lock).same
        rw [same.session, same.bundle]
        exact sound.bundle
    | true =>
        cases task : before.task with
        | unlocking bundle =>
            rw [task] at resumed install
            cases answer <;> cases install
            cases resumed
            rw [VaultSession.startLoad_vault]
            exact fun _ => rfl
        | _ =>
            rw [task] at install
            cases answer <;> cases install

theorem exportComplete_install (laws : repo.RecordLaws kept) (sound : next.Sound kept)
    {t session : Nat} {before : Suspension D} {bundle : AccountBundle}
    (task : before.task = .unlocking bundle)
    (went : run.goOn t before (.session session) = some next) :
    next.ExportComplete repo ↔ run.resumesConfirmed repo before (.session session) := by
  obtain ⟨progress, resumed, rfl⟩ := goOn_eq_some.mp went
  rw [exportComplete_iff laws sound]
  have vault : progress.vault =
      { run.vault with session := some session, bundle := some bundle } := by
    rw [task] at resumed
    cases resumed
    exact VaultSession.startLoad_vault _
  have versions (itemId : Id) :
      (run.resumed t before (.session session) progress).versions itemId = run.versions itemId := by
    simp [ClientRun.resumed, task, VaultSession.writesItem]
  have visible (itemId : Id) : progress.vault.Visible itemId ↔
      itemId ∉ run.vault.deletedLocally ∧ (run.vault.itemCache.get itemId).isSome = true := by
    rw [VaultSession.visible_iff, vault]
    simp
  simp only [resumesConfirmed, task, versions]
  constructor
  · intro complete itemId unmarked cached
    exact complete itemId ((visible itemId).mpr ⟨unmarked, cached⟩) bundle (by rw [ClientRun.resumed, vault])
  · intro confirmed itemId shown other installed
    obtain ⟨unmarked, cached⟩ := (visible itemId).mp shown
    have same : other = bundle := by
      rw [ClientRun.resumed, vault] at installed
      exact (Option.some.inj installed).symm
    subst same
    exact confirmed itemId unmarked cached

theorem exportComplete_resumed (laws : repo.RecordLaws kept) (sound : run.Sound kept)
    (complete : run.ExportComplete repo) {t : Nat} {before : Suspension D} {answer : Answer D}
    (went : run.goOn t before answer = some next) (noInstall : before.task.installs answer = false)
    (noLock : before.task ≠ .locking) :
    next.ExportComplete repo ↔ run.resumesConfirmed repo before answer := by
  have soundNext := sound_goOn sound went
  obtain ⟨progress, resumed, rfl⟩ := goOn_eq_some.mp went
  rw [exportComplete_iff laws sound] at complete
  rw [exportComplete_iff laws soundNext]
  have visibility := VaultSession.resume_visibility resumed noInstall noLock
  have bundle : progress.vault.bundle = run.vault.bundle :=
    (VaultSession.resume_effects resumed noInstall noLock).same.bundle
  have condition : run.resumesConfirmed repo before answer ↔
      ∀ itemId, run.vault.showsItem before.task answer = some itemId → ∀ bundle,
        run.vault.bundle = some bundle →
        Confirmed repo run.engine.repo bundle.vaultId itemId
          (if run.vault.writesItem before.task answer = some itemId then before.ciphertext
            else run.versions itemId) := by
    unfold resumesConfirmed
    split
    · rename_i task
      rw [task] at noInstall
      cases noInstall
    · rfl
  rw [condition]
  constructor
  · intro after itemId shows other installed
    exact after itemId (visibility.shows itemId shows) other (bundle.trans installed)
  · intro confirmed itemId visible other installed
    have there := bundle.symm.trans installed
    rcases visibility.visible itemId visible with shows | ⟨before, kept⟩
    · exact confirmed itemId shows other there
    · -- neither the item nor its version has changed
      have same : (run.resumed t _ answer progress).versions itemId = run.versions itemId :=
        if_neg kept
      rw [same]
      exact complete itemId before other there

theorem exportComplete_goOn (laws : repo.RecordLaws kept) (sound : run.Sound kept)
    (complete : run.ExportComplete repo) {t : Nat} {before : Suspension D} {answer : Answer D}
    (went : run.goOn t before answer = some next) :
    next.ExportComplete repo ↔ run.resumesConfirmed repo before answer := by
  by_cases lock : before.task = .locking
  · obtain ⟨progress, resumed, rfl⟩ := goOn_eq_some.mp went
    rw [lock] at resumed
    have cleared : progress.vault = run.vault.cleared := by
      cases answer <;> cases resumed <;> rfl
    refine iff_of_true (fun itemId visible => ?_) ?_
    · change progress.vault.Visible itemId at visible
      rw [cleared] at visible
      exact absurd visible (VaultSession.not_visible_cleared _ _)
    · have hidden : run.vault.showsItem .locking answer = none := by cases answer <;> rfl
      unfold resumesConfirmed
      split
      · rename_i task
        rw [lock] at task
        cases task
      · rw [lock, hidden]
        exact nofun
  · cases install : before.task.installs answer with
    | false => exact exportComplete_resumed laws sound complete went install lock
    | true =>
        cases task : before.task with
        | unlocking bundle =>
            rw [task] at install
            cases answer <;> cases install
            exact exportComplete_install laws (sound_goOn sound went) task went
        | _ =>
            rw [task] at install
            cases answer <;> cases install

theorem getItem_access (laws : repo.RecordLaws kept) (access : Access) (state : σ)
    (vaultId itemId : Id) :
    repo.getItem (access.perform (D := D) repo state).1 vaultId itemId =
      repo.getItem state vaultId itemId := by
  cases access with
  | enqueueEdit mutation => exact laws.getItem_enqueue state _ vaultId itemId
  | dequeueMutation mutationId => exact laws.getItem_dequeue state mutationId vaultId itemId
  | listItems | listQueuedMutations | getQueuedMutation => rfl

theorem kept_access (laws : repo.RecordLaws kept) (access : Access) {state : σ}
    (before : kept state) : kept (access.perform (D := D) repo state).1 := by
  cases access with
  | enqueueEdit mutation => exact laws.kept_enqueue state _ before
  | dequeueMutation mutationId => exact laws.kept_dequeue state mutationId before
  | listItems | listQueuedMutations | getQueuedMutation => exact before

theorem kept_operation (laws : repo.RecordLaws kept) (operation : RepositoryCall Body) {state : σ}
    (before : kept state) : kept (operation.perform (bodyRepository repo) state).1 := by
  cases operation with
  | putItem item =>
      cases item with
      | record record =>
          rw [perform_putRecord]
          split
          · rename_i next put
            exact laws.kept_putItem state record next put before
          · exact before
      | conflict | problem => exact before
  | enqueueMutation entry => exact laws.kept_enqueue state entry before
  | dequeueMutation mutationId => exact laws.kept_dequeue state mutationId before
  | setCursor vaultId cursor => exact laws.kept_setCursor state vaultId cursor before
  | listQueuedMutations | getQueuedMutation | getCursor => exact before

theorem exportComplete_of_same (laws : repo.RecordLaws kept) (sound : run.Sound kept)
    (soundNext : next.Sound kept) (complete : run.ExportComplete repo)
    (vault : next.vault = run.vault) (versions : next.versions = run.versions)
    (same : ∀ vaultId itemId, repo.getItem next.engine.repo vaultId itemId =
      repo.getItem run.engine.repo vaultId itemId) : next.ExportComplete repo := by
  rw [exportComplete_iff laws sound] at complete
  rw [exportComplete_iff laws soundNext, vault, versions]
  intro itemId visible bundle installed
  exact (Confirmed.of_same (same _ _)).mpr (complete itemId visible bundle installed)

theorem exportComplete_put (laws : repo.RecordLaws kept) (keyed : ItemsKeyed repo slot)
    (sound : run.Sound kept) (complete : run.ExportComplete repo) {item : ItemRecord}
    (soundNext : next.Sound kept) (vault : next.vault = run.vault)
    (versions : next.versions = run.versions)
    (put : repo.putItem run.engine.repo item = .ok next.engine.repo) :
    next.ExportComplete repo ↔ run.putsShown repo slot item := by
  have stored := keyed.getItem_putItem _ item _ put
  rw [exportComplete_iff laws sound] at complete
  rw [exportComplete_iff laws soundNext, vault, versions]
  constructor
  · intro after _ bundle installed itemId visible same
    obtain ⟨record, found, inVault, rfl, ciphertext, live⟩ := after itemId visible bundle installed
    rw [(stored _ _).1 same] at found
    cases found
    exact ⟨inVault, rfl, ciphertext, live⟩
  · intro shown itemId visible bundle installed
    by_cases same : slot bundle.vaultId itemId = slot item.vaultId item.itemId
    · obtain ⟨inVault, ofItem, ciphertext, live⟩ :=
        shown (by rw [put]; rfl) bundle installed itemId visible same
      exact ⟨item, (stored _ _).1 same, inVault, ofItem, ciphertext, live⟩
    · exact (Confirmed.of_same ((stored _ _).2 same)).mpr
        (complete itemId visible bundle installed)

theorem exportComplete_engine (laws : repo.RecordLaws kept) (keyed : ItemsKeyed repo slot)
    (sound : run.Sound kept) (complete : run.ExportComplete repo) {action : SyncAction Body}
    {engine : SyncRun σ Body (Option RecordConflictError)}
    (soundNext : ({ run with engine } : ClientRun σ D).Sound kept)
    (stepped : run.engine.step (bodyRepository repo) backoff vaultOf action = some engine) :
    ({ run with engine } : ClientRun σ D).ExportComplete repo ↔
      run.keepsComplete repo slot backoff (.engine action) := by
  cases action with
  | perform t =>
      obtain ⟨task, operation, suspended, awaited, rfl⟩ :=
        (SyncRun.step_perform _ _ _ run.engine t engine).mp stepped
      have condition : run.keepsComplete repo slot backoff (.engine (.perform t)) ↔
          ∀ item, operation = .putItem (.record item) → run.putsShown repo slot item := by
        constructor
        · intro keeps item put
          exact keeps task item suspended (awaited.trans (congrArg some put))
        · intro keeps other item there put
          rw [suspended] at there
          cases there
          rw [awaited] at put
          exact keeps item (Option.some.inj put)
      rw [condition]
      have unwritten (same : ∀ vaultId itemId,
          repo.getItem (operation.perform (bodyRepository repo) run.engine.repo).1 vaultId itemId =
            repo.getItem run.engine.repo vaultId itemId)
          (noPut : ∀ item, operation = .putItem (.record item) → run.putsShown repo slot item) :=
        iff_of_true (exportComplete_of_same laws sound soundNext complete rfl rfl same) noPut
      cases operation with
      | putItem body =>
          cases body with
          | record item =>
              simp only [RepositoryCall.putItem.injEq, Body.record.injEq, forall_eq']
              cases put : repo.putItem run.engine.repo item with
              | error error =>
                  refine iff_of_true (exportComplete_of_same laws sound soundNext complete rfl rfl
                    fun vaultId itemId => ?_) fun accepted => ?_
                  · change repo.getItem ((RepositoryCall.putItem (Body.record item)).perform
                      (bodyRepository repo) run.engine.repo).1 vaultId itemId = _
                    rw [perform_putRecord, put]
                  · rw [put] at accepted
                    cases accepted
              | ok state =>
                  refine exportComplete_put laws keyed sound complete soundNext rfl rfl ?_
                  change _ = Except.ok ((RepositoryCall.putItem (Body.record item)).perform
                    (bodyRepository repo) run.engine.repo).1
                  rw [perform_putRecord, put]
          | conflict | problem => exact unwritten (fun _ _ => rfl) nofun
      | enqueueMutation entry => exact unwritten (laws.getItem_enqueue _ entry) nofun
      | dequeueMutation mutationId => exact unwritten (laws.getItem_dequeue _ mutationId) nofun
      | setCursor vaultId cursor => exact unwritten (laws.getItem_setCursor _ vaultId cursor) nofun
      | listQueuedMutations | getQueuedMutation | getCursor =>
          exact unwritten (fun _ _ => rfl) nofun
  | _ =>
      refine iff_of_true ?_ trivial
      rcases SyncRun.step_repo _ _ _ run.engine _ engine stepped with same | ⟨_, _, performs, -⟩
      · refine exportComplete_of_same laws sound soundNext complete rfl rfl fun vaultId itemId => ?_
        rw [same]
      · cases performs

theorem sound_engine (laws : repo.RecordLaws kept) (sound : run.Sound kept)
    {action : SyncAction Body} {engine : SyncRun σ Body (Option RecordConflictError)}
    (stepped : run.engine.step (bodyRepository repo) backoff vaultOf action = some engine) :
    ({ run with engine } : ClientRun σ D).Sound kept := by
  refine ⟨?_, sound.bundle⟩
  rcases SyncRun.step_repo _ _ _ run.engine _ engine stepped with same | ⟨_, operation, -, same⟩
  · exact same ▸ sound.kept
  · exact same ▸ kept_operation laws operation sound.kept

theorem sound_initial {state : σ} (start : kept state) :
    (initial state : ClientRun σ D).Sound kept := ⟨start, nofun⟩

theorem exportComplete_initial (state : σ) :
    (initial state : ClientRun σ D).ExportComplete repo := by
  intro itemId visible
  cases (VaultSession.visible_iff.mp visible).1

theorem sound_started (sound : run.Sound kept) (t : Nat) (call : Call D) :
    (run.started validate t call).Sound kept := by
  refine ⟨sound.kept, ?_⟩
  rcases VaultSession.start_vault validate run.vault call with cleared | ⟨generation, same⟩
  · rw [started, cleared]
    exact nofun
  · rw [started, same]
    exact sound.bundle

theorem exportComplete_started (laws : repo.RecordLaws kept) (sound : run.Sound kept)
    (complete : run.ExportComplete repo) (t : Nat) (call : Call D) :
    (run.started validate t call).ExportComplete repo := by
  have soundNext : (run.started validate t call).Sound kept := sound_started sound t call
  rcases VaultSession.start_vault validate run.vault call with cleared | ⟨generation, same⟩
  · intro itemId visible
    rw [started, cleared] at visible
    exact absurd visible (VaultSession.not_visible_cleared _ _)
  · rw [exportComplete_iff laws sound] at complete
    rw [exportComplete_iff laws soundNext, started, same]
    exact complete

theorem step_engine {action : SyncAction Body}
    (stepped : run.step repo backoff vaultOf validate (.engine action) = some next) :
    action = .restart ∧ next = .initial run.engine.repo ∨
      ∃ engine, run.engine.step (bodyRepository repo) backoff vaultOf action = some engine ∧
        next = { run with engine } := by
  by_cases restart : action = .restart
  · subst restart
    cases stepped
    exact .inl ⟨rfl, rfl⟩
  · have engineStep : run.step repo backoff vaultOf validate (.engine action) =
        (run.engine.step (bodyRepository repo) backoff vaultOf action).map fun engine =>
          { run with engine } := by
      cases action <;> first | rfl | exact absurd rfl restart
    rw [engineStep] at stepped
    obtain ⟨engine, ran, rfl⟩ := Option.map_eq_some_iff.mp stepped
    exact .inr ⟨engine, ran, rfl⟩

theorem sound_step (laws : repo.RecordLaws kept) (sound : run.Sound kept) {action : ClientStep D}
    (stepped : run.step repo backoff vaultOf validate action = some next) : next.Sound kept := by
  cases action with
  | call t call =>
      simp only [step] at stepped
      split at stepped <;> cases stepped
      exact sound_started sound t call
  | perform t =>
      obtain ⟨before, suspended, stepped⟩ := Option.bind_eq_some_iff.mp stepped
      split at stepped <;> cases stepped
      exact ⟨kept_access laws _ sound.kept, sound.bundle⟩
  | resume t =>
      obtain ⟨before, suspended, stepped⟩ := Option.bind_eq_some_iff.mp stepped
      obtain ⟨answer, settled, went⟩ := Option.bind_eq_some_iff.mp stepped
      exact sound_goOn sound went
  | worker t answer =>
      obtain ⟨before, suspended, stepped⟩ := Option.bind_eq_some_iff.mp stepped
      exact sound_goOn sound (Option.ite_none_right_eq_some.mp stepped).2
  | fail t =>
      obtain ⟨before, suspended, went⟩ := Option.bind_eq_some_iff.mp stepped
      exact sound_goOn sound went
  | engine action =>
      rcases step_engine stepped with ⟨-, rfl⟩ | ⟨engine, ran, rfl⟩
      · exact sound_initial sound.kept
      · exact sound_engine laws sound ran

theorem exportComplete_step (laws : repo.RecordLaws kept) (keyed : ItemsKeyed repo slot)
    (sound : run.Sound kept) (complete : run.ExportComplete repo) {action : ClientStep D}
    (stepped : run.step repo backoff vaultOf validate action = some next) :
    next.ExportComplete repo ↔ run.keepsComplete repo slot backoff action := by
  have soundNext := sound_step laws sound stepped
  cases action with
  | call t call =>
      simp only [step] at stepped
      split at stepped <;> cases stepped
      exact iff_of_true (exportComplete_started laws sound complete t call) trivial
  | perform t =>
      obtain ⟨before, suspended, stepped⟩ := Option.bind_eq_some_iff.mp stepped
      split at stepped <;> cases stepped
      exact iff_of_true (exportComplete_of_same laws sound soundNext complete rfl rfl
        (getItem_access laws _ run.engine.repo)) trivial
  | resume t =>
      obtain ⟨before, suspended, stepped⟩ := Option.bind_eq_some_iff.mp stepped
      obtain ⟨answer, settled, went⟩ := Option.bind_eq_some_iff.mp stepped
      rw [exportComplete_goOn laws sound complete went]
      constructor
      · intro confirmed other settledAs there settledThere
        rw [suspended] at there
        cases there
        rw [settled] at settledThere
        cases settledThere
        exact confirmed
      · intro keeps
        exact keeps before answer suspended settled
  | worker t answer =>
      obtain ⟨before, suspended, stepped⟩ := Option.bind_eq_some_iff.mp stepped
      obtain ⟨-, went⟩ := Option.ite_none_right_eq_some.mp stepped
      rw [exportComplete_goOn laws sound complete went]
      simp only [keepsComplete, suspended, Option.some.injEq, forall_eq']
  | fail t =>
      obtain ⟨before, suspended, went⟩ := Option.bind_eq_some_iff.mp stepped
      rw [exportComplete_goOn laws sound complete went]
      -- a method that fails shows nothing
      refine iff_of_true ?_ trivial
      have hidden : run.vault.showsItem before.task .failed = none := by cases before.task <;> rfl
      unfold resumesConfirmed
      split
      · rename_i session
        cases session
      · rw [hidden]
        exact nofun
  | engine action =>
      rcases step_engine stepped with ⟨rfl, rfl⟩ | ⟨engine, ran, rfl⟩
      · exact iff_of_true (exportComplete_initial _) trivial
      · exact exportComplete_engine laws keyed sound complete soundNext ran

end ClientRun

end Proofs

namespace VaultSession

variable {vault : VaultSession D}

def writtenData : Task D → Answer D → Option D
  | .openingRecord _ _ _, .opened data | .openingQueued _ _ _, .opened data => data
  | .enqueuingSave _ _ data, .done | .resolving _ _ data, .done => some data
  | _, _ => none

theorem nextRecord_itemCache (load : Load) (records : List ItemRecord) (vault : VaultSession D) :
    (vault.nextRecord load records).vault.itemCache = vault.itemCache := by
  induction records generalizing vault with
  | nil =>
      unfold nextRecord
      split <;> rfl
  | cons record rest ih =>
      unfold nextRecord
      split
      · dsimp only
        split
        · exact ih _
        · rfl
      · rfl

theorem nextQueued_itemCache (load : Load) (entries : List QueuedMutation)
    (vault : VaultSession D) : (vault.nextQueued load entries).vault.itemCache = vault.itemCache := by
  induction entries generalizing vault with
  | nil => rfl
  | cons entry rest ih =>
      unfold nextQueued
      split
      · split
        · exact ih vault
        · split
          · exact ih _
          · rfl
      · rfl

theorem get_cache (vault : VaultSession D) (itemId other : Id) (data : D) :
    (vault.cache itemId data).itemCache.get other =
      if some itemId = some other then some data else vault.itemCache.get other := by
  by_cases same : itemId = other
  · subst same
    rw [if_pos rfl]
    exact InsertionMap.get_set_self _ _ _
  · rw [if_neg fun eq => same (Option.some.inj eq)]
    exact InsertionMap.get_set_of_ne _ _ (Ne.symm same)

theorem get_finishEdit (vault : VaultSession D) (generation : Nat) (itemId other : Id) (data : D) :
    (vault.finishEdit generation itemId data).itemCache.get other =
      if (if vault.isGenerationCurrent generation then some itemId else none) = some other then
        some data
      else vault.itemCache.get other := by
  unfold finishEdit
  split
  · exact get_cache vault itemId other data
  · exact (if_neg (Option.some_ne_none other).symm).symm

theorem resume_itemCache {task : Task D} {answer : Answer D} {progress : Progress D}
    (resumed : vault.resume task answer = some progress) (noLock : task ≠ .locking) (other : Id) :
    progress.vault.itemCache.get other =
      if vault.writesItem task answer = some other then writtenData task answer
      else vault.itemCache.get other := by
  cases task with
  | unlocking bundle =>
      cases answer <;> cases resumed
      · rw [startLoad_vault]
        rfl
      · rfl
  | listing load =>
      cases answer <;> cases resumed
      · rw [nextRecord_itemCache]
        rfl
      · rfl
  | openingRecord load itemId rest =>
      cases answer with
      | opened data =>
          cases data with
          | none =>
              cases resumed
              rw [nextRecord_itemCache]
              exact (if_neg (Option.some_ne_none other).symm).symm
          | some data =>
              simp only [resume] at resumed
              split at resumed <;> cases resumed
              · rename_i current
                rw [nextRecord_itemCache, get_cache, writesItem, if_pos current]
                rfl
              · rename_i stale
                rw [writesItem, if_neg stale]
                exact (if_neg (Option.some_ne_none other).symm).symm
      | failed =>
          cases resumed
          rfl
      | _ => cases resumed
  | listingQueue load =>
      cases answer with
      | queue entries =>
          simp only [resume] at resumed
          split at resumed <;> cases resumed
          · rw [nextQueued_itemCache]
            rfl
          · rfl
      | failed =>
          cases resumed
          rfl
      | _ => cases resumed
  | openingQueued load itemId rest =>
      cases answer with
      | opened data =>
          cases data with
          | none =>
              cases resumed
              rw [nextQueued_itemCache]
              exact (if_neg (Option.some_ne_none other).symm).symm
          | some data =>
              simp only [resume] at resumed
              split at resumed <;> cases resumed
              · rename_i current
                rw [nextQueued_itemCache, writesItem, if_pos current]
                exact get_cache vault itemId other data
              · rename_i stale
                rw [writesItem, if_neg stale]
                exact (if_neg (Option.some_ne_none other).symm).symm
      | failed =>
          cases resumed
          rfl
      | _ => cases resumed
  | enqueuingSave generation itemId data | resolving generation itemId data =>
      cases answer <;> cases resumed
      · exact get_finishEdit vault generation itemId other data
      · rfl
  | sealingSave | sealingDelete | sealingResolution | dequeuingUndo =>
      cases answer <;> cases resumed <;> rfl
  | enqueuingDelete itemId =>
      cases answer <;> cases resumed
      · unfold tombstoned
        dsimp only
        split <;> rfl
      · rfl
  | readingUndo mutationId itemId =>
      cases answer with
      | queued entry =>
          cases entry with
          | none =>
              cases resumed
              rfl
          | some entry =>
              simp only [resume] at resumed
              split at resumed <;> cases resumed <;> rfl
      | failed =>
          cases resumed
          rfl
      | _ => cases resumed
  | locking => exact absurd rfl noLock

end VaultSession

def Task.saves : Task D → Option (Id × D)
  | .enqueuingSave _ itemId data | .resolving _ itemId data => some (itemId, data)
  | _ => none

namespace VaultSession

variable {vault : VaultSession D}

theorem saves_startLoad (vault : VaultSession D) :
    (vault.startLoad).task.bind Task.saves = none := by
  unfold startLoad
  split <;> rfl

theorem saves_nextRecord (load : Load) (records : List ItemRecord) (vault : VaultSession D) :
    (vault.nextRecord load records).task.bind Task.saves = none := by
  induction records generalizing vault with
  | nil =>
      unfold nextRecord
      split <;> rfl
  | cons record rest ih =>
      unfold nextRecord
      split
      · dsimp only
        split
        · exact ih _
        · rfl
      · rfl

theorem saves_nextQueued (load : Load) (entries : List QueuedMutation) (vault : VaultSession D) :
    (vault.nextQueued load entries).task.bind Task.saves = none := by
  induction entries generalizing vault with
  | nil => rfl
  | cons entry rest ih =>
      unfold nextQueued
      split
      · split
        · exact ih vault
        · split
          · exact ih _
          · rfl
      · rfl

theorem saves_start (validate : D → List String) (vault : VaultSession D) (call : Call D) :
    (vault.start validate call).task.bind Task.saves = none := by
  cases call with
  | refreshFromRepository => exact saves_startLoad vault
  | unlockWithPassword | unlockWithRecovery | undoDeleteIfLocal => rfl
  | saveItem data itemId =>
      simp only [start]
      split
      · rfl
      · split <;> rfl
  | deleteItem itemId =>
      simp only [start]
      split <;> rfl
  | resolveConflict conflict resolution =>
      simp only [start]
      split
      · split <;> rfl
      · rfl
  | lock =>
      simp only [start]
      split <;> rfl

theorem saves_resume {task : Task D} {answer : Answer D} {progress : Progress D} {itemId : Id}
    {data : D} (resumed : vault.resume task answer = some progress)
    (saves : progress.task.bind Task.saves = some (itemId, data)) :
    ∃ bundle mutationId envelope, answer = .envelope mutationId envelope ∧
      progress.mutation.map (fun mutation => mutation.ciphertext) =
        some (Wire.encodeB64 envelope) ∧
      ((∃ generation, task = .sealingSave generation bundle itemId data) ∨
        ∃ generation conflict, task = .sealingResolution generation bundle conflict data ∧
          conflict.current.itemId = itemId) := by
  cases task with
  | sealingSave generation bundle other sealed =>
      cases answer <;> cases resumed <;> cases saves
      exact ⟨bundle, _, _, rfl, rfl, .inl ⟨generation, rfl⟩⟩
  | sealingResolution generation bundle conflict sealed =>
      cases answer <;> cases resumed <;> cases saves
      exact ⟨bundle, _, _, rfl, rfl, .inr ⟨generation, conflict, rfl, rfl⟩⟩
  | unlocking bundle =>
      cases answer <;> cases resumed
      · rw [saves_startLoad] at saves
        cases saves
      · cases saves
  | listing load =>
      cases answer <;> cases resumed
      · rw [saves_nextRecord] at saves
        cases saves
      · cases saves
  | openingRecord load other rest =>
      cases answer with
      | opened opened =>
          cases opened with
          | none =>
              cases resumed
              rw [saves_nextRecord] at saves
              cases saves
          | some opened =>
              simp only [resume] at resumed
              split at resumed <;> cases resumed
              · rw [saves_nextRecord] at saves
                cases saves
              · cases saves
      | failed =>
          cases resumed
          cases saves
      | _ => cases resumed
  | listingQueue load =>
      cases answer with
      | queue entries =>
          simp only [resume] at resumed
          split at resumed <;> cases resumed
          · rw [saves_nextQueued] at saves
            cases saves
          · cases saves
      | failed =>
          cases resumed
          cases saves
      | _ => cases resumed
  | openingQueued load other rest =>
      cases answer with
      | opened opened =>
          cases opened with
          | none =>
              cases resumed
              rw [saves_nextQueued] at saves
              cases saves
          | some opened =>
              simp only [resume] at resumed
              split at resumed <;> cases resumed
              · rw [saves_nextQueued] at saves
                cases saves
              · cases saves
      | failed =>
          cases resumed
          cases saves
      | _ => cases resumed
  | readingUndo mutationId other =>
      cases answer with
      | queued entry =>
          cases entry with
          | none =>
              cases resumed
              cases saves
          | some entry =>
              simp only [resume] at resumed
              split at resumed <;> cases resumed <;> cases saves
      | failed =>
          cases resumed
          cases saves
      | _ => cases resumed
  | sealingDelete | enqueuingSave | enqueuingDelete | resolving | dequeuingUndo | locking =>
      cases answer <;> cases resumed <;> cases saves

end VaultSession

def Answer.ofRepository : Answer D → Bool
  | .opened _ | .envelope _ _ => false
  | _ => true

theorem Access.perform_ofRepository (repo : LocalRepository σ ItemRecord RecordConflictError)
    (state : σ) (access : Access) :
    (access.perform (D := D) repo state).2.ofRepository = true := by
  cases access <;> rfl

namespace ClientRun

structure Opens (openPayload : Nat → AccountBundle → Id → String → Option D)
    (run : ClientRun σ D) : Prop where
  cached : ∀ itemId data, run.vault.itemCache.get itemId = some data →
    ∃ session bundle, openPayload session bundle itemId (run.versions itemId) = some data
  saving : ∀ t before, run.calls t = some before → ∀ itemId data,
    before.task.saves = some (itemId, data) →
    ∃ session bundle, openPayload session bundle itemId before.ciphertext = some data
  settled : ∀ t before, run.calls t = some before → ∀ answer, before.settled = some answer →
    answer.ofRepository = true

section Opening

variable {repo : LocalRepository σ ItemRecord RecordConflictError} {kept : σ → Prop}
  {backoff : BackoffOptions} {vaultOf : Body → Id} {validate : D → List String}
  {openPayload : Nat → AccountBundle → Id → String → Option D} {run next : ClientRun σ D}

theorem opens_initial (state : σ) : (initial state : ClientRun σ D).Opens openPayload := by
  constructor
  · intro itemId data cached
    cases cached
  · intro t before found
    cases found
  · intro t before found
    cases found

theorem calls_update {P : Suspension D → Prop} {calls : Nat → Option (Suspension D)} {t : Nat}
    {after : Option (Suspension D)} (old : ∀ t before, calls t = some before → P before)
    (new : ∀ before, after = some before → P before) :
    ∀ other before, Function.update calls t after other = some before → P before := by
  intro other before found
  by_cases same : other = t
  · subst same
    rw [Function.update_self] at found
    exact new before found
  · rw [Function.update_of_ne same] at found
    exact old other before found

theorem opens_started (opens : run.Opens openPayload) (t : Nat) (call : Call D) :
    (run.started validate t call).Opens openPayload := by
  have task := VaultSession.saves_start validate run.vault call
  constructor
  · intro itemId data cached
    change (run.vault.start validate call).vault.itemCache.get itemId = some data at cached
    rcases VaultSession.start_vault validate run.vault call with cleared | ⟨generation, same⟩
    · rw [cleared] at cached
      cases cached
    · rw [same] at cached
      exact opens.cached itemId data cached
  · refine calls_update opens.saving fun before found itemId data saves => ?_
    obtain ⟨suspended, there, rfl⟩ := Option.map_eq_some_iff.mp found
    rw [there, Option.bind_some, saves] at task
    cases task
  · refine calls_update opens.settled fun before found answer settled => ?_
    obtain ⟨suspended, there, rfl⟩ := Option.map_eq_some_iff.mp found
    cases settled

theorem opens_accessed (opens : run.Opens openPayload) {t : Nat} {before : Suspension D}
    (suspended : run.calls t = some before) (access : Access) (rest : List Access) :
    (run.accessed repo t before access rest).Opens openPayload := by
  constructor
  · exact opens.cached
  · refine calls_update opens.saving fun after found => ?_
    cases found
    exact opens.saving t before suspended
  · refine calls_update opens.settled fun after found answer settled => ?_
    cases found
    obtain ⟨-, same⟩ := Option.ite_none_right_eq_some.mp settled
    rw [← Option.some.inj same]
    exact access.perform_ofRepository repo run.engine.repo

theorem opens_written (opens : run.Opens openPayload) {t : Nat} {before : Suspension D}
    (suspended : run.calls t = some before) {answer : Answer D}
    (genuine : answersGenuinely openPayload before answer) {itemId : Id} {data : D}
    (writes : run.vault.writesItem before.task answer = some itemId)
    (written : VaultSession.writtenData before.task answer = some data) :
    ∃ session bundle, openPayload session bundle itemId before.ciphertext = some data := by
  have saving := opens.saving t before suspended itemId data
  unfold answersGenuinely at genuine
  cases task : before.task with
  | openingRecord load other rest | openingQueued load other rest =>
      rw [task] at writes written genuine
      cases answer with
      | opened opened =>
          cases opened with
          | none => cases writes
          | some opened =>
              obtain ⟨-, same⟩ := Option.ite_none_right_eq_some.mp writes
              cases same
              cases written
              exact ⟨_, _, genuine⟩
      | _ => cases writes
  | enqueuingSave generation other sealed | resolving generation other sealed =>
      rw [task] at writes written saving
      cases answer with
      | done =>
          obtain ⟨-, same⟩ := Option.ite_none_right_eq_some.mp writes
          cases same
          cases written
          exact saving rfl
      | _ => cases writes
  | _ =>
      rw [task] at writes
      cases answer <;> cases writes

theorem opens_goOn (opens : run.Opens openPayload) {t : Nat} {before : Suspension D}
    (suspended : run.calls t = some before) {answer : Answer D}
    (genuine : answersGenuinely openPayload before answer)
    (went : run.goOn t before answer = some next) : next.Opens openPayload := by
  obtain ⟨progress, resumed, rfl⟩ := goOn_eq_some.mp went
  constructor
  · intro itemId data cached
    change progress.vault.itemCache.get itemId = some data at cached
    change ∃ session bundle, openPayload session bundle itemId
      (if run.vault.writesItem before.task answer = some itemId then before.ciphertext
        else run.versions itemId) = some data
    by_cases lock : before.task = .locking
    · rw [lock] at resumed
      cases answer <;> cases resumed <;> cases cached
    · rw [VaultSession.resume_itemCache resumed lock] at cached
      split at cached
      · rename_i writes
        rw [if_pos writes]
        exact opens_written opens suspended genuine writes cached
      · rename_i kept
        rw [if_neg kept]
        exact opens.cached itemId data cached
  · refine calls_update opens.saving fun after found itemId data saves => ?_
    obtain ⟨task, there, rfl⟩ := Option.map_eq_some_iff.mp found
    obtain ⟨bundle, mutationId, envelope, rfl, ciphertext, sealed⟩ :=
      VaultSession.saves_resume resumed (by rw [there]; exact saves)
    unfold answersGenuinely at genuine
    rcases sealed with ⟨generation, sealing⟩ | ⟨generation, conflict, sealing, rfl⟩
    · rw [sealing] at genuine
      obtain ⟨session, opened⟩ := genuine
      refine ⟨session, bundle, ?_⟩
      simp only [ciphertextAhead, sealing, ciphertext, Option.getD_some]
      exact opened
    · rw [sealing] at genuine
      obtain ⟨session, opened⟩ := genuine
      refine ⟨session, bundle, ?_⟩
      simp only [ciphertextAhead, sealing, ciphertext, Option.getD_some]
      exact opened
  · refine calls_update opens.settled fun after found answer settled => ?_
    obtain ⟨task, there, rfl⟩ := Option.map_eq_some_iff.mp found
    cases settled

theorem answersGenuinely_ofRepository (before : Suspension D) {answer : Answer D}
    (ofRepository : answer.ofRepository = true) : answersGenuinely openPayload before answer := by
  unfold answersGenuinely
  split <;> trivial

theorem opens_step (opens : run.Opens openPayload) {action : ClientStep D}
    (genuine : run.genuine openPayload action)
    (stepped : run.step repo backoff vaultOf validate action = some next) :
    next.Opens openPayload := by
  cases action with
  | call t call =>
      simp only [step] at stepped
      split at stepped <;> cases stepped
      exact opens_started opens t call
  | perform t =>
      obtain ⟨before, suspended, stepped⟩ := Option.bind_eq_some_iff.mp stepped
      split at stepped <;> cases stepped
      exact opens_accessed opens suspended _ _
  | resume t =>
      obtain ⟨before, suspended, stepped⟩ := Option.bind_eq_some_iff.mp stepped
      obtain ⟨answer, settled, went⟩ := Option.bind_eq_some_iff.mp stepped
      exact opens_goOn opens suspended
        (answersGenuinely_ofRepository before (opens.settled t before suspended answer settled)) went
  | worker t answer =>
      obtain ⟨before, suspended, stepped⟩ := Option.bind_eq_some_iff.mp stepped
      exact opens_goOn opens suspended (genuine before suspended)
        (Option.ite_none_right_eq_some.mp stepped).2
  | fail t =>
      obtain ⟨before, suspended, went⟩ := Option.bind_eq_some_iff.mp stepped
      exact opens_goOn opens suspended (answersGenuinely_ofRepository before rfl) went
  | engine action =>
      rcases step_engine stepped with ⟨-, rfl⟩ | ⟨engine, ran, rfl⟩
      · exact opens_initial _
      · exact ⟨opens.cached, opens.saving, opens.settled⟩

theorem restorable (complete : run.ExportComplete repo) (opens : run.Opens openPayload) :
    run.Restorable repo openPayload := by
  intro itemId data shown
  obtain ⟨archive, built, ⟨record, member, ofItem, ciphertext, live⟩, -⟩ :=
    complete itemId (by rw [VaultSession.Visible, shown]; rfl)
  have cached : run.vault.itemCache.get itemId = some data := by
    unfold VaultSession.getItemData at shown
    split at shown
    · cases shown
    · split at shown
      · cases shown
      · exact shown
  obtain ⟨session, bundle, opened⟩ := opens.cached itemId data cached
  exact ⟨archive, built, record, member, ofItem, live, session, bundle, ciphertext ▸ opened⟩

end Opening

end ClientRun

section Result

variable {repo : LocalRepository σ ItemRecord RecordConflictError} {slot : Id → Id → κ}
  {kept : σ → Prop} {backoff : BackoffOptions} {vaultOf : Body → Id} {validate : D → List String}

/-- The export has exactly the confirmed records. It has what is visible in every state of a run if
and only if each step that brings an item into view shows its confirmed version, and each record
that is stored in the place of a visible item is the version that is shown. Then all that is shown
can be had from the export again. -/
theorem encrypted_export_contents (laws : repo.RecordLaws kept) (keyed : ItemsKeyed repo slot)
    {state : σ} (start : kept state) (actions : List (ClientStep D)) :
    Always (ClientRun.step repo backoff vaultOf validate) (ClientRun.ExportsConfirmed repo)
        (.initial state) actions ∧
      (Always (ClientRun.step repo backoff vaultOf validate) (ClientRun.ExportComplete repo)
          (.initial state) actions ↔
        Every (ClientRun.step repo backoff vaultOf validate)
          (ClientRun.keepsComplete repo slot backoff) (.initial state) actions) ∧
      ∀ openPayload, Every (ClientRun.step repo backoff vaultOf validate)
          (fun run action => run.keepsComplete repo slot backoff action ∧
            run.genuine openPayload action) (.initial state) actions →
        Always (ClientRun.step repo backoff vaultOf validate)
          (ClientRun.Restorable repo openPayload) (.initial state) actions := by
  have preserved (run : ClientRun σ D) (action : ClientStep D) (next : ClientRun σ D)
      (sound : run.Sound kept)
      (stepped : run.step repo backoff vaultOf validate action = some next) : next.Sound kept :=
    ClientRun.sound_step laws sound stepped
  have sound : (ClientRun.initial state : ClientRun σ D).Sound kept := ClientRun.sound_initial start
  have complete : (ClientRun.initial state : ClientRun σ D).ExportComplete repo :=
    ClientRun.exportComplete_initial state
  refine ⟨?_, ?_, fun openPayload every => ?_⟩
  · exact always_of_preserved preserved (fun run => ClientRun.exportsConfirmed laws) sound
  · exact always_iff_every (ClientRun.Sound kept) preserved
      (fun run action next sound complete => ClientRun.exportComplete_step laws keyed sound complete)
      sound complete
  · have step (run : ClientRun σ D) (action : ClientStep D) (next : ClientRun σ D)
        (before : run.Sound kept ∧ run.ExportComplete repo ∧ run.Opens openPayload)
        (condition : run.keepsComplete repo slot backoff action ∧ run.genuine openPayload action)
        (stepped : run.step repo backoff vaultOf validate action = some next) :
        next.Sound kept ∧ next.ExportComplete repo ∧ next.Opens openPayload := by
      obtain ⟨sound, complete, opens⟩ := before
      exact ⟨preserved run action next sound stepped,
        (ClientRun.exportComplete_step laws keyed sound complete stepped).mpr condition.1,
        ClientRun.opens_step opens condition.2 stepped⟩
    exact always_of_every step (fun run before => ClientRun.restorable before.2.1 before.2.2)
      ⟨sound, complete, ClientRun.opens_initial state⟩ every

end Result

section Samples

def exportSampleStep : ClientRun InMemoryLocalRepository String → ClientStep String →
    Option (ClientRun InMemoryLocalRepository String) :=
  ClientRun.step InMemoryLocalRepository.operations defaultBackoff (fun _ => "vault") fun _ => []

def exportSampleStart : InMemoryLocalRepository :=
  { InMemoryLocalRepository.empty with
    items := InsertionMap.empty.set (InMemoryLocalRepository.key "vault" "item") (sampleRecord 1) }

theorem exportSampleStart_keyed : InMemoryLocalRepository.Keyed exportSampleStart :=
  InMemoryLocalRepository.operations_recordLaws.kept_putItem .empty (sampleRecord 1) _ rfl
    InMemoryLocalRepository.keyed_empty

def exportSampleLoad : List (ClientStep String) :=
  [.call 1 (.unlockWithPassword sampleBundle), .worker 1 (.session 7), .perform 1, .resume 1,
    .worker 1 (.opened (some "secret")), .perform 1, .resume 1]

theorem encrypted_export_contents_loaded :
    Always exportSampleStep (ClientRun.ExportComplete InMemoryLocalRepository.operations)
      (.initial exportSampleStart) exportSampleLoad := by
  refine (encrypted_export_contents InMemoryLocalRepository.operations_recordLaws
    inMemory_itemsKeyed exportSampleStart_keyed exportSampleLoad).2.1.mpr ?_
  intro next stepped
  obtain rfl := Option.some.inj stepped
  refine ⟨trivial, fun next stepped => ?_⟩
  obtain rfl := Option.some.inj stepped
  refine ⟨?_, fun next stepped => ?_⟩
  · -- nothing is cached yet
    intro before found
    cases found
    intro itemId unmarked cached
    cases cached
  obtain rfl := Option.some.inj stepped
  refine ⟨trivial, fun next stepped => ?_⟩
  obtain rfl := Option.some.inj stepped
  refine ⟨?_, fun next stepped => ?_⟩
  · intro before answer found settled
    cases found
    cases settled
    exact nofun
  obtain rfl := Option.some.inj stepped
  refine ⟨?_, fun next stepped => ?_⟩
  · intro before found
    cases found
    intro itemId shows bundle installed
    cases installed
    cases shows
    exact ⟨sampleRecord 1, rfl, rfl, rfl, rfl, rfl⟩
  obtain rfl := Option.some.inj stepped
  refine ⟨trivial, fun next stepped => ?_⟩
  obtain rfl := Option.some.inj stepped
  refine ⟨?_, trivial⟩
  intro before answer found settled
  cases found
  cases settled
  exact nofun

def exportSampleEdit : List (ClientStep String) :=
  exportSampleLoad ++
    [.call 2 (.saveItem "changed" "item"), .worker 2 (.envelope "mutation" [0, 0, 1]), .perform 2,
      .resume 2]

/-- The edit is visible, and the export still has the version before it. -/
theorem queued_edit_not_exported :
    ¬ ∀ actions : List (ClientStep String),
      Always exportSampleStep (ClientRun.ExportComplete InMemoryLocalRepository.operations)
        (.initial exportSampleStart) actions := by
  intro holds
  have always := holds exportSampleEdit
  have complete := always.at_end (run_reached (by decide +kernel))
  have visible : (reached exportSampleStep (.initial exportSampleStart)
      exportSampleEdit).vault.getItemData "item" = some "changed" := by decide +kernel
  obtain ⟨archive, built, ⟨record, member, -, ciphertext, -⟩, -⟩ :=
    complete "item" (by rw [VaultSession.Visible, visible]; rfl)
  have contents : buildEncryptedExport InMemoryLocalRepository.operations
      (reached exportSampleStep (.initial exportSampleStart) exportSampleEdit).engine.repo
      (reached exportSampleStep (.initial exportSampleStart) exportSampleEdit).vault =
      some ⟨"zkpm-encrypted-export/v1", "vault", [sampleRecord 1]⟩ := by decide +kernel
  rw [contents] at built
  cases built
  obtain rfl := List.mem_singleton.mp member
  exact absurd ciphertext (by decide +kernel)

end Samples

end ZenPass.Web
