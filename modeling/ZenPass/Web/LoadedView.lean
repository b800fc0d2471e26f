import ZenPass.Sdk.Records
import ZenPass.Web.CacheProvenance

set_option autoImplicit false

namespace ZenPass.Web

open KeyedStore Sdk Transition

variable {D : Type}

structure SearchEntry where
  itemId : Id
  title : String
  username : Option String
  url : Option String
  type : String
deriving DecidableEq, Repr

/-- `normal` stands for `trim` and `toLowerCase`, as they are applied to a query; `lower` for
`toLowerCase`. -/
def searchItems (normal lower : String → String) (entries : List SearchEntry) (query : String) :
    List SearchEntry :=
  let q := (normal query).toList
  if q.length = 0 then entries
  else
    entries.filter fun e =>
      decide (q <:+: (lower e.title).toList) ||
        e.username.any (fun username => decide (q <:+: (lower username).toList)) ||
        e.url.any (fun url => decide (q <:+: (lower url).toList))

namespace VaultSession

def listVisible (summary : Id → D → SearchEntry) (vault : VaultSession D) : List SearchEntry :=
  if vault.session.isNone then []
  else
    (vault.itemCache.entries.filter fun entry => entry.1 ∉ vault.deletedLocally).map
      fun entry => summary entry.1 entry.2

def list (summary : Id → D → SearchEntry) (vault : VaultSession D) : List SearchEntry :=
  vault.listVisible summary

def search (summary : Id → D → SearchEntry) (normal lower : String → String)
    (vault : VaultSession D) (query : String) : List SearchEntry :=
  searchItems normal lower (vault.listVisible summary) query

def getItemData (vault : VaultSession D) (itemId : Id) : Option D :=
  if vault.session.isNone then none
  else if itemId ∈ vault.deletedLocally then none
  else vault.itemCache.get itemId

end VaultSession

structure Contents where
  listItems : Id → List ItemRecord
  queue : List QueuedMutation
  distinct : ∀ vaultId, ((listItems vaultId).map ItemRecord.itemId).Nodup

/-- A queued mutation of the vault that awaits no resolution. -/
def overlays (vaultId : Id) (entry : QueuedMutation) : Bool :=
  entry.state ≠ .conflict && entry.mutation.vaultId == vaultId

-- `plaintext` is what a ciphertext of an item opens to: all of them do
variable (plaintext : Id → String → D)

def overlay (shown : Id → Option D) (itemId : Id) (ciphertext : String) (deleted : Bool) :
    Id → Option D :=
  Function.update shown itemId (if deleted then none else some (plaintext itemId ciphertext))

def Contents.confirmed (contents : Contents) (vaultId : Id) : Id → Option D :=
  (contents.listItems vaultId).foldl
    (fun shown record => overlay plaintext shown record.itemId record.ciphertext record.deleted)
    fun _ => none

def Contents.specified (contents : Contents) (vaultId : Id) : Id → Option D :=
  (contents.queue.filter (overlays vaultId)).foldl
    (fun shown entry =>
      overlay plaintext shown entry.mutation.itemId entry.mutation.ciphertext
        entry.mutation.deleted)
    (contents.confirmed plaintext vaultId)

/-- All three ways to look into the vault show the same items. -/
structure Shows (summary : Id → D → SearchEntry) (vault : VaultSession D) (view : Id → Option D) :
    Prop where
  getItemData : ∀ itemId, vault.getItemData itemId = view itemId
  list : ∀ entry, entry ∈ vault.list summary ↔
    ∃ itemId data, view itemId = some data ∧ entry = summary itemId data
  search : ∀ normal lower query entry, entry ∈ vault.search summary normal lower query ↔
    ∃ itemId data, view itemId = some data ∧ entry = summary itemId data ∧
      entry ∈ searchItems normal lower [entry] query

def Contents.loadAnswers (contents : Contents) (vaultId : Id) : List (Answer D) :=
  .records (contents.listItems vaultId) ::
    ((contents.listItems vaultId).filter fun record => !record.deleted).map
      (fun record => .opened (some (plaintext record.itemId record.ciphertext))) ++
  .queue contents.queue ::
    ((contents.queue.filter (overlays vaultId)).filter fun entry => !entry.mutation.deleted).map
      fun entry =>
        .opened (some (plaintext entry.mutation.itemId entry.mutation.ciphertext))

inductive Opening where
  | password (bundle : AccountBundle) (session : Nat)
  | recovery (bundle : AccountBundle) (session : Nat)

def Opening.bundle : Opening → AccountBundle
  | .password bundle _ | .recovery bundle _ => bundle

def Contents.unlock (contents : Contents) (t : Nat) (opening : Opening) : List (VaultAction D) :=
  (match opening with
    | .password bundle session =>
        [.call t (.unlockWithPassword bundle), .resume t (.session session)]
    | .recovery bundle session =>
        [.call t (.unlockWithRecovery bundle), .resume t (.session session)]) ++
  (contents.loadAnswers plaintext opening.bundle.vaultId).map (.resume t)

def Contents.refresh (contents : Contents) (t : Nat) (bundle : AccountBundle) :
    List (VaultAction D) :=
  .call t .refreshFromRepository ::
    (contents.loadAnswers plaintext bundle.vaultId).map (.resume t)

/-- Before a load, no mark hides a record that is no longer deleted, and the cache holds, but for
what is marked, no item that the repository has lost; unless a queued mutation decides. -/
structure CachesFollow (contents : Contents) (vaultId : Id) (vault : VaultSession D) : Prop where
  restored : ∀ record ∈ contents.listItems vaultId, record.deleted = false →
    (∀ entry ∈ contents.queue, overlays vaultId entry = true →
      entry.mutation.itemId ≠ record.itemId) →
    record.itemId ∉ vault.deletedLocally
  dropped : ∀ itemId, (∀ record ∈ contents.listItems vaultId, record.itemId ≠ itemId) →
    (∀ entry ∈ contents.queue, overlays vaultId entry = true → entry.mutation.itemId ≠ itemId) →
    itemId ∈ vault.deletedLocally ∨ vault.itemCache.get itemId = none

namespace VaultSession

def shown (vault : VaultSession D) (itemId : Id) : Option D :=
  if itemId ∈ vault.deletedLocally then none else vault.itemCache.get itemId

theorem shown_addDeleted (vault : VaultSession D) (itemId : Id) :
    (vault.addDeleted itemId).shown = Function.update vault.shown itemId none := by
  funext other
  by_cases same : other = itemId
  · subst same
    simp [shown, addDeleted]
  · simp [shown, addDeleted, same]

theorem shown_undelete_cache (vault : VaultSession D) (itemId : Id) (data : D) :
    ((vault.cache itemId data).undelete itemId).shown =
      Function.update vault.shown itemId (some data) := by
  funext other
  by_cases same : other = itemId
  · subst same
    simp [shown, undelete, cache, InsertionMap.get_set_self]
  · simp [shown, undelete, cache, same, InsertionMap.get_set_of_ne]

-- The mark of an item hides what is cached beneath it.
theorem shown_cache (vault : VaultSession D) (itemId : Id) (data : D) :
    (vault.cache itemId data).shown =
      Function.update vault.shown itemId
        (if itemId ∈ vault.deletedLocally then none else some data) := by
  funext other
  by_cases same : other = itemId
  · subst same
    simp [shown, cache, InsertionMap.get_set_self]
  · simp [shown, cache, same, InsertionMap.get_set_of_ne]

theorem shown_loadQueued (vault : VaultSession D) (bundle : AccountBundle)
    (entry : QueuedMutation) (data : D) (applies : overlays bundle.vaultId entry = true) :
    (vault.loadQueued bundle entry (some data)).shown =
      Function.update vault.shown entry.mutation.itemId
        (if entry.mutation.deleted then none else some data) := by
  have applied : ¬ (entry.state = .conflict ∨ entry.mutation.vaultId ≠ bundle.vaultId) := by
    simpa [overlays] using applies
  unfold loadQueued
  rw [if_neg applied]
  cases entry.mutation.deleted with
  | true => exact shown_addDeleted vault entry.mutation.itemId
  | false => exact shown_undelete_cache vault entry.mutation.itemId data

theorem loadQueued_ignored (vault : VaultSession D) (bundle : AccountBundle)
    (entry : QueuedMutation) (opened : Option D) (ignored : overlays bundle.vaultId entry = false) :
    vault.loadQueued bundle entry opened = vault := by
  have skipped : entry.state = .conflict ∨ entry.mutation.vaultId ≠ bundle.vaultId := by
    by_contra applied
    simp [overlays] at ignored
    exact applied (by tauto)
  unfold loadQueued
  rw [if_pos skipped]

theorem shown_loadRecord (vault : VaultSession D) (record : ItemRecord) (data : D) :
    (vault.loadRecord record (some data)).shown =
      Function.update vault.shown record.itemId
        (if record.deleted ∨ record.itemId ∈ vault.deletedLocally then none else some data) := by
  unfold loadRecord
  cases record.deleted with
  | true =>
      simp only [if_true, true_or]
      exact shown_addDeleted _ record.itemId
  | false =>
      simp only [Bool.false_eq_true, if_false, false_or]
      exact shown_cache _ record.itemId data

theorem mem_deletedLocally_loadRecord (vault : VaultSession D) (record : ItemRecord)
    (opened : Option D) (itemId : Id) (other : itemId ≠ record.itemId) :
    itemId ∈ (vault.loadRecord record opened).deletedLocally ↔ itemId ∈ vault.deletedLocally := by
  unfold loadRecord
  cases record.deleted with
  | true => simp [addDeleted, other]
  | false => cases opened <;> simp [cache]

def loadRecords (vault : VaultSession D) (records : List ItemRecord) : VaultSession D :=
  records.foldl
    (fun vault record =>
      vault.loadRecord record (some (plaintext record.itemId record.ciphertext))) vault

def loadQueue (bundle : AccountBundle) (vault : VaultSession D) (queue : List QueuedMutation) :
    VaultSession D :=
  queue.foldl
    (fun vault entry =>
      vault.loadQueued bundle entry
        (some (plaintext entry.mutation.itemId entry.mutation.ciphertext))) vault

theorem shown_loadQueue (bundle : AccountBundle) (vault : VaultSession D)
    (queue : List QueuedMutation) :
    (loadQueue plaintext bundle vault queue).shown =
      (queue.filter (overlays bundle.vaultId)).foldl
        (fun shown entry =>
          overlay plaintext shown entry.mutation.itemId entry.mutation.ciphertext
            entry.mutation.deleted) vault.shown := by
  induction queue generalizing vault with
  | nil => rfl
  | cons entry rest ih =>
      unfold loadQueue at ih ⊢
      rw [List.foldl_cons, ih]
      cases applies : overlays bundle.vaultId entry with
      | true =>
          rw [List.filter_cons_of_pos applies, List.foldl_cons,
            shown_loadQueued vault bundle entry _ applies]
          rfl
      | false =>
          rw [List.filter_cons_of_neg (by simp [applies]),
            loadQueued_ignored vault bundle entry _ applies]

theorem loadRecords_other (vault : VaultSession D) (records : List ItemRecord) (itemId : Id)
    (absent : ∀ record ∈ records, record.itemId ≠ itemId) :
    (loadRecords plaintext vault records).shown itemId = vault.shown itemId ∧
      (itemId ∈ (loadRecords plaintext vault records).deletedLocally ↔
        itemId ∈ vault.deletedLocally) := by
  induction records generalizing vault with
  | nil => exact ⟨rfl, Iff.rfl⟩
  | cons record rest ih =>
      have other := absent record List.mem_cons_self
      have later := ih (vault.loadRecord record (some (plaintext record.itemId record.ciphertext)))
        fun next member => absent next (List.mem_cons_of_mem _ member)
      rw [shown_loadRecord, Function.update_of_ne (Ne.symm other),
        mem_deletedLocally_loadRecord _ _ _ _ (Ne.symm other)] at later
      exact later

theorem loadRecords_record (vault : VaultSession D) (records : List ItemRecord)
    (distinct : (records.map ItemRecord.itemId).Nodup) (record : ItemRecord)
    (member : record ∈ records) :
    (loadRecords plaintext vault records).shown record.itemId =
      if record.deleted ∨ record.itemId ∈ vault.deletedLocally then none
      else some (plaintext record.itemId record.ciphertext) := by
  induction records generalizing vault with
  | nil => cases member
  | cons first rest ih =>
      rw [List.map_cons, List.nodup_cons] at distinct
      rcases List.mem_cons.mp member with rfl | later
      · have absent : ∀ next ∈ rest, next.itemId ≠ record.itemId := by
          intro next there same
          exact distinct.1 (List.mem_map.mpr ⟨next, there, same⟩)
        have kept := (loadRecords_other plaintext
          (vault.loadRecord record (some (plaintext record.itemId record.ciphertext))) rest
          record.itemId absent).1
        rw [shown_loadRecord, Function.update_self] at kept
        exact kept
      · have other : record.itemId ≠ first.itemId := by
          intro same
          exact distinct.1 (List.mem_map.mpr ⟨record, later, same⟩)
        have kept := ih
          (vault.loadRecord first (some (plaintext first.itemId first.ciphertext))) distinct.2 later
        simp only [mem_deletedLocally_loadRecord _ _ _ _ other] at kept
        exact kept

end VaultSession

theorem foldl_overlay_other {α : Type} (itemIdOf : α → Id) (ciphertextOf : α → String)
    (deletedOf : α → Bool) (changes : List α) (shown : Id → Option D) (itemId : Id)
    (absent : ∀ change ∈ changes, itemIdOf change ≠ itemId) :
    changes.foldl
      (fun shown change =>
        overlay plaintext shown (itemIdOf change) (ciphertextOf change) (deletedOf change))
      shown itemId = shown itemId := by
  induction changes generalizing shown with
  | nil => rfl
  | cons change rest ih =>
      have other := absent change List.mem_cons_self
      rw [List.foldl_cons, ih _ fun next member => absent next (List.mem_cons_of_mem _ member)]
      exact Function.update_of_ne (Ne.symm other) _ _

theorem foldl_overlay_decides {α : Type} (itemIdOf : α → Id) (ciphertextOf : α → String)
    (deletedOf : α → Bool) (changes : List α) (shown shown' : Id → Option D) (itemId : Id)
    (decides : ∃ change ∈ changes, itemIdOf change = itemId) :
    changes.foldl
      (fun shown change =>
        overlay plaintext shown (itemIdOf change) (ciphertextOf change) (deletedOf change))
      shown itemId =
    changes.foldl
      (fun shown change =>
        overlay plaintext shown (itemIdOf change) (ciphertextOf change) (deletedOf change))
      shown' itemId := by
  induction changes generalizing shown shown' with
  | nil =>
      rcases decides with ⟨change, member, _⟩
      cases member
  | cons first rest ih =>
      rw [List.foldl_cons, List.foldl_cons]
      by_cases again : ∃ next ∈ rest, itemIdOf next = itemId
      · exact ih _ _ again
      · have absent : ∀ next ∈ rest, itemIdOf next ≠ itemId := by
          intro next there same
          exact again ⟨next, there, same⟩
        have here : itemIdOf first = itemId := by
          rcases decides with ⟨change, member, same⟩
          rcases List.mem_cons.mp member with rfl | later
          · exact same
          · exact absurd same (absent change later)
        rw [foldl_overlay_other plaintext itemIdOf ciphertextOf deletedOf rest _ _ absent,
          foldl_overlay_other plaintext itemIdOf ciphertextOf deletedOf rest _ _ absent]
        simp [overlay, here]

theorem foldl_overlay_distinct {α : Type} (itemIdOf : α → Id) (ciphertextOf : α → String)
    (deletedOf : α → Bool) (changes : List α) (distinct : (changes.map itemIdOf).Nodup)
    (shown : Id → Option D) (change : α) (member : change ∈ changes) :
    changes.foldl
      (fun shown change =>
        overlay plaintext shown (itemIdOf change) (ciphertextOf change) (deletedOf change))
      shown (itemIdOf change) =
    if deletedOf change then none
    else some (plaintext (itemIdOf change) (ciphertextOf change)) := by
  induction changes generalizing shown with
  | nil => cases member
  | cons first rest ih =>
      rw [List.map_cons, List.nodup_cons] at distinct
      rw [List.foldl_cons]
      rcases List.mem_cons.mp member with rfl | later
      · have absent : ∀ next ∈ rest, itemIdOf next ≠ itemIdOf change := by
          intro next there same
          exact distinct.1 (List.mem_map.mpr ⟨next, there, same⟩)
        rw [foldl_overlay_other plaintext itemIdOf ciphertextOf deletedOf rest _ _ absent]
        exact Function.update_self _ _ _
      · exact ih distinct.2 _ later

theorem Contents.confirmed_other (contents : Contents) (vaultId itemId : Id)
    (absent : ∀ record ∈ contents.listItems vaultId, record.itemId ≠ itemId) :
    contents.confirmed plaintext vaultId itemId = none :=
  foldl_overlay_other plaintext ItemRecord.itemId ItemRecord.ciphertext ItemRecord.deleted
    (contents.listItems vaultId) (fun _ => none) itemId absent

theorem Contents.confirmed_record (contents : Contents) (vaultId : Id) (record : ItemRecord)
    (member : record ∈ contents.listItems vaultId) :
    contents.confirmed plaintext vaultId record.itemId =
      if record.deleted then none else some (plaintext record.itemId record.ciphertext) :=
  foldl_overlay_distinct plaintext ItemRecord.itemId ItemRecord.ciphertext ItemRecord.deleted
    (contents.listItems vaultId) (contents.distinct vaultId) (fun _ => none) record member

def Contents.loaded (contents : Contents) (bundle : AccountBundle) (vault : VaultSession D) :
    VaultSession D :=
  VaultSession.loadQueue plaintext bundle
    (VaultSession.loadRecords plaintext vault (contents.listItems bundle.vaultId)) contents.queue

theorem shown_loadRecords_iff (contents : Contents) (vaultId : Id) (vault : VaultSession D)
    (itemId : Id) :
    (VaultSession.loadRecords plaintext vault (contents.listItems vaultId)).shown itemId =
        contents.confirmed plaintext vaultId itemId ↔
      (∀ record ∈ contents.listItems vaultId, record.itemId = itemId → record.deleted = false →
        itemId ∉ vault.deletedLocally) ∧
      ((∀ record ∈ contents.listItems vaultId, record.itemId ≠ itemId) →
        itemId ∈ vault.deletedLocally ∨ vault.itemCache.get itemId = none) := by
  by_cases known : ∃ record ∈ contents.listItems vaultId, record.itemId = itemId
  · rcases known with ⟨record, member, rfl⟩
    rw [VaultSession.loadRecords_record plaintext vault _ (contents.distinct vaultId) record member,
      contents.confirmed_record plaintext vaultId record member]
    have vacuous : ¬ ∀ other ∈ contents.listItems vaultId, other.itemId ≠ record.itemId :=
      fun absent => absent record member rfl
    have only : ∀ other ∈ contents.listItems vaultId, other.itemId = record.itemId →
        other = record := fun other there same =>
      List.inj_on_of_nodup_map (contents.distinct vaultId) there member same
    constructor
    · intro same
      refine ⟨?_, fun absent => absurd absent vacuous⟩
      intro other there sameId alive marked
      rw [only other there sameId] at alive
      simp [alive, marked] at same
    · rintro ⟨unmarked, _⟩
      cases alive : record.deleted with
      | true => simp
      | false => simp [unmarked record member rfl alive]
  · have absent : ∀ record ∈ contents.listItems vaultId, record.itemId ≠ itemId := by
      intro record member same
      exact known ⟨record, member, same⟩
    rw [(VaultSession.loadRecords_other plaintext vault _ itemId absent).1,
      contents.confirmed_other plaintext vaultId itemId absent]
    constructor
    · intro hidden
      refine ⟨fun record member same => absurd same (absent record member), fun _ => ?_⟩
      by_contra neither
      rw [not_or] at neither
      simp only [VaultSession.shown, if_neg neither.1] at hidden
      exact neither.2 hidden
    · rintro ⟨_, dropped⟩
      rcases dropped absent with marked | uncached
      · simp [VaultSession.shown, marked]
      · simp [VaultSession.shown, uncached]

theorem loaded_shown_iff (contents : Contents) (bundle : AccountBundle) (vault : VaultSession D) :
    (contents.loaded plaintext bundle vault).shown = contents.specified plaintext bundle.vaultId ↔
      CachesFollow contents bundle.vaultId vault := by
  have queue := VaultSession.shown_loadQueue plaintext bundle
    (VaultSession.loadRecords plaintext vault (contents.listItems bundle.vaultId)) contents.queue
  -- an item with a queued mutation is shown as specified in any case
  have item : ∀ itemId, (contents.loaded plaintext bundle vault).shown itemId =
      contents.specified plaintext bundle.vaultId itemId ↔
      ((∀ entry ∈ contents.queue, overlays bundle.vaultId entry = true →
          entry.mutation.itemId ≠ itemId) →
        (VaultSession.loadRecords plaintext vault (contents.listItems bundle.vaultId)).shown itemId
          = contents.confirmed plaintext bundle.vaultId itemId) := by
    intro itemId
    rw [Contents.loaded, queue, Contents.specified]
    by_cases decides : ∃ entry ∈ contents.queue.filter (overlays bundle.vaultId),
        entry.mutation.itemId = itemId
    · refine iff_of_true (foldl_overlay_decides plaintext _ _ _ _ _ _ itemId decides) ?_
      intro absent
      rcases decides with ⟨entry, member, same⟩
      rw [List.mem_filter] at member
      exact absurd same (absent entry member.1 member.2)
    · have absent : ∀ entry ∈ contents.queue.filter (overlays bundle.vaultId),
          entry.mutation.itemId ≠ itemId := by
        intro entry member same
        exact decides ⟨entry, member, same⟩
      rw [foldl_overlay_other plaintext _ _ _ _ _ itemId absent,
        foldl_overlay_other plaintext _ _ _ _ _ itemId absent]
      have none' : ∀ entry ∈ contents.queue, overlays bundle.vaultId entry = true →
          entry.mutation.itemId ≠ itemId := by
        intro entry member applies
        exact absent entry (List.mem_filter.mpr ⟨member, applies⟩)
      exact ⟨fun same _ => same, fun same => same none'⟩
  rw [funext_iff]
  simp only [item, shown_loadRecords_iff]
  constructor
  · intro all
    constructor
    · intro record member alive unqueued
      exact (all record.itemId unqueued).1 record member rfl alive
    · intro itemId absent unqueued
      exact (all itemId unqueued).2 absent
  · intro follow itemId unqueued
    constructor
    · rintro record member rfl alive
      exact follow.restored record member alive unqueued
    · intro absent
      exact follow.dropped itemId absent unqueued

namespace VaultSession

theorem loadRecord_sameSession (vault : VaultSession D) (record : ItemRecord)
    (opened : Option D) : SameSession (vault.loadRecord record opened) vault := by
  unfold loadRecord
  cases record.deleted <;> cases opened <;> exact ⟨rfl, rfl, rfl⟩

theorem loadQueued_sameSession (vault : VaultSession D) (bundle : AccountBundle)
    (entry : QueuedMutation) (opened : Option D) :
    SameSession (vault.loadQueued bundle entry opened) vault := by
  unfold loadQueued
  split
  · exact ⟨rfl, rfl, rfl⟩
  · cases entry.mutation.deleted <;> cases opened <;> exact ⟨rfl, rfl, rfl⟩

theorem foldl_sameSession {α : Type} (f : VaultSession D → α → VaultSession D)
    (each : ∀ vault change, SameSession (f vault change) vault) (changes : List α)
    (vault : VaultSession D) : SameSession (changes.foldl f vault) vault := by
  induction changes generalizing vault with
  | nil => exact ⟨rfl, rfl, rfl⟩
  | cons change rest ih => exact (ih (f vault change)).trans (each vault change)

theorem loadRecords_sameSession (vault : VaultSession D) (records : List ItemRecord) :
    SameSession (loadRecords plaintext vault records) vault :=
  foldl_sameSession _ (fun vault record => loadRecord_sameSession vault record _) records vault

theorem loaded_sameSession (contents : Contents) (bundle : AccountBundle)
    (vault : VaultSession D) : SameSession (contents.loaded plaintext bundle vault) vault :=
  (foldl_sameSession _ (fun vault entry => loadQueued_sameSession vault bundle entry _)
    contents.queue _).trans (loadRecords_sameSession plaintext vault _)

end VaultSession

section Run

variable {validate : D → List String} {state : VaultRun D} {t : Nat} {load : Load}

theorem advance_advance (state : VaultRun D) (t : Nat) (first second : Progress D)
    (noMutation : first.mutation = none) :
    (state.advance t first).advance t second = state.advance t second := by
  simp [VaultRun.advance, noMutation]

theorem step_advance (progress next : Progress D) {task : Task D} {answer : Answer D}
    (suspended : progress.task = some task) (noMutation : progress.mutation = none)
    (resumed : progress.vault.resume task answer = some next)
    (opened : state.openedByResume task answer = state.opened)
    (resolved : state.lockResolvedByResume task answer = state.lockResolved) :
    VaultRun.step validate (state.advance t progress) (.resume t answer) =
      some (state.advance t next) := by
  have there : (state.advance t progress).tasks t = some task := by
    simp [VaultRun.advance, suspended]
  have vault : (state.advance t progress).vault = progress.vault := rfl
  have opened' : (state.advance t progress).openedByResume task answer = state.opened := opened
  have resolved' : (state.advance t progress).lockResolvedByResume task answer =
      state.lockResolved := resolved
  simp only [VaultRun.step, there, vault, resumed, Option.map_some, opened', resolved',
    advance_advance state t progress next noMutation]
  rfl

theorem run_records (vault : VaultSession D) (records : List ItemRecord)
    (current : vault.isGenerationCurrent load.generation = true) :
    run (VaultRun.step validate) (state.advance t (vault.nextRecord load records))
      (((records.filter fun record => !record.deleted).map
        (fun record => Answer.opened (some (plaintext record.itemId record.ciphertext)))).map
          (.resume t)) =
      some (state.advance t
        { vault := VaultSession.loadRecords plaintext vault records
          task := some (.listingQueue load) }) := by
  induction records generalizing vault with
  | nil => simp [VaultSession.nextRecord, current, VaultSession.loadRecords]
  | cons record rest ih =>
      have later := ih (vault.loadRecord record (some (plaintext record.itemId record.ciphertext)))
        (by rw [(VaultSession.loadRecord_sameSession _ _ _).current]; exact current)
      cases deleted : record.deleted with
      | true =>
          simp only [VaultSession.loadRecord, deleted, if_true] at later
          simpa [VaultSession.nextRecord, current, deleted, VaultSession.loadRecords,
            VaultSession.loadRecord] using later
      | false =>
          simp only [VaultSession.loadRecord, deleted, Bool.false_eq_true, if_false] at later
          rw [List.filter_cons_of_pos (by simp [deleted]), List.map_cons, List.map_cons, run_cons]
          simp only [VaultSession.nextRecord, current, deleted, if_true, Bool.false_eq_true,
            if_false]
          rw [step_advance _ ((({ vault with
            revisionCache := vault.revisionCache.set record.itemId record.revision }).cache
              record.itemId (plaintext record.itemId record.ciphertext)).nextRecord load rest)]
          · simpa [VaultSession.loadRecords, VaultSession.loadRecord, deleted] using later
          · rfl
          · rfl
          · exact if_pos current
          · rfl
          · rfl

theorem run_queue (vault : VaultSession D) (queue : List QueuedMutation)
    (current : vault.isGenerationCurrent load.generation = true) :
    run (VaultRun.step validate) (state.advance t (vault.nextQueued load queue))
      ((((queue.filter (overlays load.bundle.vaultId)).filter
        fun entry => !entry.mutation.deleted).map
          (fun entry => Answer.opened
            (some (plaintext entry.mutation.itemId entry.mutation.ciphertext)))).map
              (.resume t)) =
      some (state.advance t
        { vault := VaultSession.loadQueue plaintext load.bundle vault queue }) := by
  induction queue generalizing vault with
  | nil => rfl
  | cons entry rest ih =>
      have later := ih (vault.loadQueued load.bundle entry
          (some (plaintext entry.mutation.itemId entry.mutation.ciphertext)))
        (by rw [(VaultSession.loadQueued_sameSession _ _ _ _).current]; exact current)
      cases applies : overlays load.bundle.vaultId entry with
      | false =>
          have skipped : entry.state = .conflict ∨ entry.mutation.vaultId ≠ load.bundle.vaultId := by
            by_contra applied
            simp [overlays] at applies
            exact applied (by tauto)
          rw [VaultSession.loadQueued_ignored vault load.bundle entry _ applies] at later
          rw [List.filter_cons_of_neg (by simp [applies])]
          simpa [VaultSession.nextQueued, current, skipped, VaultSession.loadQueue,
            VaultSession.loadQueued_ignored vault load.bundle entry _ applies] using later
      | true =>
          have applied : ¬ (entry.state = .conflict ∨
              entry.mutation.vaultId ≠ load.bundle.vaultId) := by
            simpa [overlays] using applies
          rw [List.filter_cons_of_pos applies]
          cases deleted : entry.mutation.deleted with
          | true =>
              simp only [VaultSession.loadQueued, if_neg applied, deleted, if_true] at later
              simpa [VaultSession.nextQueued, current, applied, deleted, VaultSession.loadQueue,
                VaultSession.loadQueued] using later
          | false =>
              simp only [VaultSession.loadQueued, if_neg applied, deleted, Bool.false_eq_true,
                if_false] at later
              rw [List.filter_cons_of_pos (by simp [deleted]), List.map_cons, List.map_cons,
                run_cons]
              simp only [VaultSession.nextQueued, current, deleted, if_true, if_neg applied,
                Bool.false_eq_true, if_false]
              rw [step_advance _ (((vault.cache entry.mutation.itemId
                (plaintext entry.mutation.itemId entry.mutation.ciphertext)).undelete
                  entry.mutation.itemId).nextQueued load rest)]
              · simpa [VaultSession.loadQueue, VaultSession.loadQueued, applied, deleted]
                  using later
              · rfl
              · rfl
              · exact if_pos current
              · rfl
              · rfl

theorem run_load (contents : Contents) (vault : VaultSession D)
    (current : vault.isGenerationCurrent load.generation = true) :
    run (VaultRun.step validate) (state.advance t { vault, task := some (.listing load) })
      ((contents.loadAnswers plaintext load.bundle.vaultId).map (.resume t)) =
      some (state.advance t { vault := contents.loaded plaintext load.bundle vault }) := by
  have later := (VaultSession.loadRecords_sameSession plaintext vault
    (contents.listItems load.bundle.vaultId)).current load.generation
  rw [current] at later
  simp only [Contents.loadAnswers, List.map_append, List.map_cons, List.cons_append, run_cons]
  rw [step_advance _ (vault.nextRecord load (contents.listItems load.bundle.vaultId))]
  · rw [Option.bind_some, run_append, run_records plaintext vault _ current, Option.bind_some,
      run_cons, step_advance _ ((VaultSession.loadRecords plaintext vault
        (contents.listItems load.bundle.vaultId)).nextQueued load contents.queue)]
    · rw [Option.bind_some, run_queue plaintext _ contents.queue later]
      rfl
    · rfl
    · rfl
    · exact if_pos later
    · rfl
    · rfl
  · rfl
  · rfl
  · rfl
  · rfl
  · rfl

end Run

def VaultSession.unlocked (vault : VaultSession D) (bundle : AccountBundle) (session : Nat) :
    VaultSession D :=
  { vault with
    generation := vault.generation + 1
    session := some session
    bundle := some bundle }

def Opening.session : Opening → Nat
  | .password _ session | .recovery _ session => session

theorem run_opening (validate : D → List String) (state : VaultRun D) (t : Nat)
    (idle : state.tasks t = none) (bundle : AccountBundle) (session : Nat) (call : Call D)
    (unlocks : call = .unlockWithPassword bundle ∨ call = .unlockWithRecovery bundle) :
    run (VaultRun.step validate) state [.call t call, .resume t (.session session)] =
      some (({ state with
        opened := state.opened ++ [(session, bundle)]
        lockResolved := false } : VaultRun D).advance t
          { vault := state.vault.unlocked bundle session
            task := some (.listing ⟨state.vault.generation + 1, session, bundle⟩) }) := by
  rcases unlocks with rfl | rfl <;>
    simp [run_cons, VaultRun.step, idle, VaultSession.start, VaultRun.advance,
      VaultSession.resume, VaultSession.startLoad, VaultRun.openedByResume,
      VaultRun.lockResolvedByCall, VaultRun.lockResolvedByResume, VaultSession.unlocked]

theorem run_unlock (validate : D → List String) (contents : Contents) (state : VaultRun D)
    (t : Nat) (idle : state.tasks t = none) (opening : Opening) :
    ∃ final, run (VaultRun.step validate) state (contents.unlock plaintext t opening) = some final ∧
      final.tasks = state.tasks ∧
      final.vault = contents.loaded plaintext opening.bundle
        (state.vault.unlocked opening.bundle opening.session) := by
  have current : (state.vault.unlocked opening.bundle opening.session).isGenerationCurrent
      (state.vault.generation + 1) = true := by
    simp [VaultSession.isGenerationCurrent, VaultSession.unlocked]
  have kept : Function.update state.tasks t none = state.tasks :=
    Function.update_eq_self_iff.mpr idle.symm
  refine ⟨({ state with
    opened := state.opened ++ [(opening.session, opening.bundle)]
    lockResolved := false } : VaultRun D).advance t
      { vault := contents.loaded plaintext opening.bundle
          (state.vault.unlocked opening.bundle opening.session) }, ?_, kept, rfl⟩
  cases opening with
  | password bundle session =>
      rw [Contents.unlock, run_append,
        run_opening validate state t idle bundle session _ (Or.inl rfl), Option.bind_some]
      exact run_load plaintext contents _ current
  | recovery bundle session =>
      rw [Contents.unlock, run_append,
        run_opening validate state t idle bundle session _ (Or.inr rfl), Option.bind_some]
      exact run_load plaintext contents _ current

theorem run_refresh (validate : D → List String) (contents : Contents) (state : VaultRun D)
    (t : Nat) (idle : state.tasks t = none) {session : Nat} {bundle : AccountBundle}
    (unlocked : state.vault.session = some session) (installed : state.vault.bundle = some bundle) :
    ∃ final, run (VaultRun.step validate) state (contents.refresh plaintext t bundle) = some final ∧
      final.tasks = state.tasks ∧
      final.vault = contents.loaded plaintext bundle state.vault := by
  have current : state.vault.isGenerationCurrent state.vault.generation = true := by
    simp [VaultSession.isGenerationCurrent, unlocked]
  have called : VaultRun.step validate state (.call t .refreshFromRepository) =
      some (state.advance t { vault := state.vault,
                              task := some (.listing ⟨state.vault.generation, session, bundle⟩) }) := by
    simp only [VaultRun.step, idle, VaultSession.start, VaultSession.startLoad, unlocked, installed]
    rfl
  refine ⟨state.advance t { vault := contents.loaded plaintext bundle state.vault }, ?_, ?_, rfl⟩
  · rw [Contents.refresh, run_cons, called, Option.bind_some]
    exact run_load plaintext contents state.vault current
  · exact Function.update_eq_self_iff.mpr idle.symm

theorem mem_list_iff (summary : Id → D → SearchEntry) (vault : VaultSession D)
    (entry : SearchEntry) :
    entry ∈ vault.list summary ↔
      ∃ itemId data, vault.getItemData itemId = some data ∧ entry = summary itemId data := by
  unfold VaultSession.list VaultSession.listVisible VaultSession.getItemData
  cases vault.session with
  | none => simp
  | some session =>
      simp only [Option.isNone_some, Bool.false_eq_true, if_false, List.mem_map, List.mem_filter,
        decide_eq_true_eq]
      constructor
      · rintro ⟨⟨itemId, data⟩, ⟨cached, unmarked⟩, rfl⟩
        refine ⟨itemId, data, ?_, rfl⟩
        rw [if_neg unmarked, InsertionMap.get_eq_some]
        exact cached
      · rintro ⟨itemId, data, shown, rfl⟩
        split at shown
        · cases shown
        · rename_i unmarked
          rw [InsertionMap.get_eq_some] at shown
          exact ⟨(itemId, data), ⟨shown, unmarked⟩, rfl⟩

theorem mem_searchItems_iff (normal lower : String → String) (entries : List SearchEntry)
    (query : String) (entry : SearchEntry) :
    entry ∈ searchItems normal lower entries query ↔
      entry ∈ entries ∧ entry ∈ searchItems normal lower [entry] query := by
  unfold searchItems
  dsimp only
  split
  · simp
  · simp only [List.mem_filter, List.mem_singleton, true_and]

theorem shows_iff (summary : Id → D → SearchEntry) (vault : VaultSession D)
    (view : Id → Option D) :
    Shows summary vault view ↔ ∀ itemId, vault.getItemData itemId = view itemId := by
  constructor
  · intro shows
    exact shows.getItemData
  · intro data
    have list : ∀ entry, entry ∈ vault.list summary ↔
        ∃ itemId data, view itemId = some data ∧ entry = summary itemId data := by
      intro entry
      simp only [mem_list_iff, data]
    refine ⟨data, list, ?_⟩
    intro normal lower query entry
    rw [VaultSession.search, mem_searchItems_iff]
    have listed := list entry
    rw [VaultSession.list] at listed
    rw [listed]
    constructor
    · rintro ⟨⟨itemId, found, shown, same⟩, matching⟩
      exact ⟨itemId, found, shown, same, matching⟩
    · rintro ⟨itemId, found, shown, same, matching⟩
      exact ⟨⟨itemId, found, shown, same⟩, matching⟩

theorem shows_loaded_iff (summary : Id → D → SearchEntry) (contents : Contents)
    (bundle : AccountBundle) (vault : VaultSession D) (unlocked : vault.session.isSome = true) :
    Shows summary (contents.loaded plaintext bundle vault)
        (contents.specified plaintext bundle.vaultId) ↔
      CachesFollow contents bundle.vaultId vault := by
  rw [shows_iff, ← loaded_shown_iff, funext_iff]
  have session : (contents.loaded plaintext bundle vault).session.isNone = false := by
    rw [(VaultSession.loaded_sameSession plaintext contents bundle vault).session]
    simpa using unlocked
  simp only [VaultSession.getItemData, session, Bool.false_eq_true, if_false]
  rfl

/-- From any state with no call in flight, an unlock and a refresh that run alone complete, and
what can then be seen is what the repository specifies exactly when the caches followed it. -/
theorem view_after_load (validate : D → List String) (summary : Id → D → SearchEntry)
    (contents : Contents) (state : VaultRun D) (alone : ∀ t, state.tasks t = none) (t : Nat) :
    (∀ opening, ∃ final,
      run (VaultRun.step validate) state (contents.unlock plaintext t opening) = some final ∧
      (∀ t, final.tasks t = none) ∧
      final.vault.generation = state.vault.generation + 1 ∧
      (Shows summary final.vault (contents.specified plaintext opening.bundle.vaultId) ↔
        CachesFollow contents opening.bundle.vaultId state.vault)) ∧
    (∀ session bundle, state.vault.session = some session → state.vault.bundle = some bundle →
      ∃ final,
        run (VaultRun.step validate) state (contents.refresh plaintext t bundle) = some final ∧
        (∀ t, final.tasks t = none) ∧
        final.vault.generation = state.vault.generation ∧
        (Shows summary final.vault (contents.specified plaintext bundle.vaultId) ↔
          CachesFollow contents bundle.vaultId state.vault)) := by
  constructor
  · intro opening
    rcases run_unlock plaintext validate contents state t (alone t) opening
      with ⟨final, ran, tasks, vault⟩
    refine ⟨final, ran, ?_, ?_, ?_⟩
    · rw [tasks]
      exact alone
    · rw [vault]
      exact (VaultSession.loaded_sameSession plaintext contents opening.bundle _).generation
    · rw [vault, shows_loaded_iff plaintext summary contents opening.bundle _ rfl]
      -- an unlock leaves both caches as it finds them
      exact ⟨fun follow => ⟨follow.1, follow.2⟩, fun follow => ⟨follow.1, follow.2⟩⟩
  · intro session bundle unlocked installed
    rcases run_refresh plaintext validate contents state t (alone t) unlocked installed
      with ⟨final, ran, tasks, vault⟩
    refine ⟨final, ran, ?_, ?_, ?_⟩
    · rw [tasks]
      exact alone
    · rw [vault]
      exact (VaultSession.loaded_sameSession plaintext contents bundle _).generation
    · rw [vault]
      exact shows_loaded_iff plaintext summary contents bundle _ (by simp [unlocked])

theorem cachesFollow_empty (contents : Contents) (vaultId : Id) (vault : VaultSession D)
    (unmarked : vault.deletedLocally = ∅) (uncached : ∀ itemId, vault.itemCache.get itemId = none) :
    CachesFollow contents vaultId vault := by
  constructor
  · intro record _ _ _
    simp [unmarked]
  · intro itemId _ _
    exact Or.inr (uncached itemId)

def contentsOf (repo : InMemoryLocalRepository) (keyed : repo.Keyed) : Contents where
  listItems := InMemoryLocalRepository.operations.listItems repo
  queue := InMemoryLocalRepository.operations.listQueuedMutations repo
  distinct vaultId := by
    change (((repo.items.entries.map Prod.snd).filter fun item => item.vaultId = vaultId).map
      ItemRecord.itemId).Nodup
    rw [List.filter_map, List.map_map]
    apply List.Nodup.map_on
    · intro first there second there' same
      rw [List.mem_filter] at there there'
      apply List.inj_on_of_nodup_map repo.items.nodup there.1 there'.1
      have vault := of_decide_eq_true there.2
      have vault' := of_decide_eq_true there'.2
      rw [keyed first.1 first.2 ((InsertionMap.get_eq_some _ _ _).mpr there.1),
        keyed second.1 second.2 ((InsertionMap.get_eq_some _ _ _).mpr there'.1)]
      exact congrArg₂ _ (vault.trans vault'.symm) same
    · exact (List.Nodup.of_map _ repo.items.nodup).filter _

section Samples

def storing (record : ItemRecord) : InMemoryLocalRepository :=
  { InMemoryLocalRepository.empty with
    items := InsertionMap.empty.set (InMemoryLocalRepository.key record.vaultId record.itemId) record }

theorem storing_keyed (record : ItemRecord) : (storing record).Keyed := by
  intro stored other found
  obtain ⟨same, rfl⟩ | ⟨-, before⟩ := InsertionMap.get_set_cases found
  · exact same
  · exact InMemoryLocalRepository.keyed_empty stored other before

def sampleContents (record : ItemRecord) : Contents :=
  contentsOf (storing record) (storing_keyed record)

def samplePlaintext (_ : Id) (ciphertext : String) : String := ciphertext

def sampleSummary (itemId : Id) (data : String) : SearchEntry := ⟨itemId, data, none, none, "login"⟩

theorem view_after_load_first :
    ∃ final,
      run (VaultRun.step fun _ => []) .initial
          ((sampleContents (sampleRecord 1)).unlock samplePlaintext 1 (.password sampleBundle 7)) =
        some final ∧
      Shows sampleSummary final.vault
        ((sampleContents (sampleRecord 1)).specified samplePlaintext "vault") := by
  rcases (view_after_load samplePlaintext (fun _ => []) sampleSummary
    (sampleContents (sampleRecord 1)) .initial (fun _ => rfl) 1).1 (.password sampleBundle 7)
    with ⟨final, ran, _, _, shows⟩
  exact ⟨final, ran, shows.mpr (cachesFollow_empty _ _ _ rfl fun _ => rfl)⟩

def tombstone : ItemRecord := { sampleRecord 1 with deleted := true }

/-- Another device then restores it, and a refresh still hides it: the records only add marks. -/
theorem restored_item_stays_hidden :
    ¬ ∀ (history : List (VaultAction String)) (state final : VaultRun String)
        (contents : Contents) (session : Nat) (bundle : AccountBundle),
      run (VaultRun.step fun _ => []) .initial history = some state →
      (∀ t, state.tasks t = none) →
      state.vault.session = some session → state.vault.bundle = some bundle →
      run (VaultRun.step fun _ => []) state (contents.refresh samplePlaintext 2 bundle) =
        some final →
      Shows sampleSummary final.vault (contents.specified samplePlaintext bundle.vaultId) := by
  intro always
  rcases run_unlock samplePlaintext (fun _ => []) (sampleContents tombstone) .initial 1 rfl
    (.password sampleBundle 7) with ⟨state, ran, tasks, vault⟩
  have unlocked : state.vault.session = some 7 := by rw [vault]; rfl
  have installed : state.vault.bundle = some sampleBundle := by rw [vault]; rfl
  rcases run_refresh samplePlaintext (fun _ => []) (sampleContents (sampleRecord 2)) state 2
    (by rw [tasks]; rfl) unlocked installed with ⟨final, refreshed, _, loaded⟩
  have shows := always _ state final (sampleContents (sampleRecord 2)) 7 sampleBundle ran
    (fun t => by rw [tasks]; rfl) unlocked installed refreshed
  rw [loaded, shows_loaded_iff samplePlaintext sampleSummary _ sampleBundle _
    (by simp [unlocked])] at shows
  have hidden : "item" ∈ state.vault.deletedLocally := by rw [vault]; decide +kernel
  exact shows.restored (sampleRecord 2) List.mem_cons_self rfl (fun _ member => nomatch member)
    hidden

end Samples

end ZenPass.Web
