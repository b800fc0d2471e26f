import ZenPass.Sync.ChangeFeed
import ZenPass.Sync.Sequential
import ZenPass.Wire.Cursor

set_option autoImplicit false

namespace ZenPass.Sync

open Wire

/-- `itemKeys` are the keys that mutations have named. -/
structure Tables where
  store : Store
  itemKeys : List (Id × Id)

namespace Tables

def empty : Tables := ⟨.empty, []⟩

def vaultRows (database : Tables) (vaultId : Id) : List ItemRow :=
  (database.itemKeys.filterMap database.store.rows).filter fun row => row.vaultId == vaultId

def postMutation (database : Tables) (backend : Backend) (accountId vaultId : Id)
    (mutation : Mutation) (now : Timestamp) : Tables × ApplyOutcome :=
  let (store, outcome) := Sync.postMutation database.store backend accountId vaultId mutation now
  (⟨store, database.itemKeys.insert (mutation.vaultId, mutation.itemId)⟩, outcome)

def listChanges (database : Tables) (vaultId : Id) (afterSequence limit : Nat) : List ItemRow :=
  Paging.page ItemRow.sequence (database.vaultRows vaultId) afterSequence limit

def cursorSequence (backend : Backend) : Option String → Option Nat
  | none => some 0
  | some cursor => decodeCursor (backend == .rust) cursor

def getChanges (database : Tables) (backend : Backend) (accountId vaultId : Id)
    (cursor : Option String) (limit : Option Int) : Option (List ItemRecord × String) :=
  if isValidId vaultId then
    match cursorSequence backend cursor, pageLimit limit with
    | some afterSequence, some limit =>
        if database.store.owners vaultId = some accountId then
          let rows := database.listChanges vaultId afterSequence limit
          some (rows.map (toItemRecord backend),
            rows.getLast?.elim (cursor.getD (encodeCursor 0)) fun row => encodeCursor row.sequence)
        else none
    | _, _ => none
  else none

end Tables

section Mutations

variable {store next : Store} {tx : Tx}

def Keyed (store : Store) : Prop :=
  ∀ key row, store.rows key = some row → (row.vaultId, row.itemId) = key

/-- What one mutation leaves and answers. -/
inductive Applied (store : Store) (tx : Tx) : Store × ApplyOutcome → Prop where
  | replayed (row : MutationOutcome) (found : store.outcomes tx.outcomeKey = some row) :
      Applied store tx (store, .response row.statusCode row.responseBody)
  | refused (next : Store) (outcome : ApplyOutcome) (rows : next.rows = store.rows)
      (outcomes : next.outcomes = store.outcomes)
      (sequence : next.vaultChangeSequence = store.vaultChangeSequence)
      (refused : ∀ statusCode body, outcome ≠ .response statusCode body) :
      Applied store tx (next, outcome)
  | conflicted (next : Store) (body : ResponseBody) (rows : next.rows = store.rows)
      (outcomes : next.outcomes = Function.update store.outcomes tx.outcomeKey
        (some ⟨tx.mutation.vaultId, 409, body⟩))
      (sequence : next.vaultChangeSequence = store.vaultChangeSequence) :
      Applied store tx (next, .response 409 body)
  | accepted (next : Store) (row : ItemRow) (accepted : Accepted store next tx row)
      (keyed : Keyed store → (row.vaultId, row.itemId) = tx.itemKey)
      (above : store.vaultChangeSequence < row.sequence)
      (last : row.sequence = next.vaultChangeSequence) :
      Applied store tx (next, .response 201 (.record (toItemRecord tx.backend row)))

theorem upsertItem_row (store : Store) (item : tx.item = store.rows tx.itemKey) :
    (Keyed store → ((store.upsertItem tx).2.vaultId, (store.upsertItem tx).2.itemId) = tx.itemKey) ∧
      store.vaultChangeSequence < (store.upsertItem tx).2.sequence ∧
      (store.upsertItem tx).2.sequence = (store.upsertItem tx).1.vaultChangeSequence := by
  unfold Store.upsertItem
  cases held : tx.item with
  | none => exact ⟨fun _ => rfl, Nat.lt_succ_self _, rfl⟩
  | some current =>
      refine ⟨fun keyed => keyed tx.itemKey current (item.symm.trans held), ?_, rfl⟩
      simp [updatedRow]

theorem applyMutation_cases (store : Store) (tx : Tx) :
    Applied store tx (applyMutation store tx) := by
  have rows : (store.ensureVaultOwnership tx).rows = store.rows := ensureVaultOwnership_rows
  have outcomes : (store.ensureVaultOwnership tx).outcomes = store.outcomes :=
    ensureVaultOwnership_outcomes
  have sequence : (store.ensureVaultOwnership tx).vaultChangeSequence =
      store.vaultChangeSequence := ensureVaultOwnership_sequence
  unfold applyMutation
  split
  · rename_i row found
    exact .replayed row found
  · dsimp only
    split
    · exact .refused store .notFound rfl rfl rfl nofun
    · rcases compareRevision_cases tx (store.rows tx.itemKey) with
        ⟨-, bad⟩ | ⟨row, body, -, conflict⟩ | ⟨-, same⟩
      · simp only [bad]
        split
        · exact .refused _ .badRequest rows outcomes sequence nofun
        · exact .refused _ .badRequest rfl rfl rfl nofun
      · simp only [conflict]
        refine .conflicted _ body rows ?_ sequence
        rw [Store.recordMutationOutcome, outcomes]
      · simp only [same]
        have item : ({ tx with item := store.rows tx.itemKey, phase := .nextval } : Tx).item =
            (store.ensureVaultOwnership tx).rows tx.itemKey := by rw [rows]
        obtain ⟨keyed, above, last⟩ := upsertItem_row (store.ensureVaultOwnership tx) item
        have accepted : Accepted store _
            { tx with item := store.rows tx.itemKey, phase := .nextval } _ :=
          accepted_upsertItem (store.ensureVaultOwnership tx) rows outcomes rfl
        rw [sequence] at above
        refine @Applied.accepted store tx _ _ ?_ ?_ above last
        · exact ⟨accepted.rows, accepted.outcomes, accepted.ciphertext, accepted.deleted,
            accepted.revision⟩
        · intro known
          apply keyed
          intro key row found
          rw [rows] at found
          exact known key row found

/-- What no mutation takes back: rows stay, with later revisions and sequences if they change. -/
structure Advances (store next : Store) : Prop where
  sequence : store.vaultChangeSequence ≤ next.vaultChangeSequence
  kept : ∀ key row, store.rows key = some row →
    ∃ later, next.rows key = some later ∧ (later = row ∨
      row.revision < later.revision ∧ row.sequence < later.sequence)
  fresh : ∀ key row, next.rows key = some row →
    store.rows key = some row ∨ store.vaultChangeSequence < row.sequence

structure Numbered (store : Store) : Prop where
  keyed : Keyed store
  bounded : ∀ key row, store.rows key = some row →
    0 < row.sequence ∧ row.sequence ≤ store.vaultChangeSequence
  distinct : ∀ key other row otherRow, store.rows key = some row →
    store.rows other = some otherRow → row.sequence = otherRow.sequence → key = other

theorem numbered_empty : Numbered .empty where
  keyed _ _ found := by cases found
  bounded _ _ found := by cases found
  distinct _ _ _ _ found := by cases found

theorem advances_of_rows (rows : next.rows = store.rows)
    (sequence : next.vaultChangeSequence = store.vaultChangeSequence) : Advances store next where
  sequence := sequence.ge
  kept key row found := ⟨row, by rw [rows]; exact found, .inl rfl⟩
  fresh key row found := .inl (by rw [← rows]; exact found)

theorem numbered_of_rows (numbered : Numbered store) (rows : next.rows = store.rows)
    (sequence : next.vaultChangeSequence = store.vaultChangeSequence) : Numbered next := by
  obtain ⟨keyed, bounded, distinct⟩ := numbered
  refine ⟨?_, ?_, ?_⟩
  · unfold Keyed
    rw [rows]
    exact keyed
  · rw [rows, sequence]
    exact bounded
  · rw [rows]
    exact distinct

theorem advances_accepted (numbered : Numbered store) {row : ItemRow}
    (accepted : Accepted store next tx row) (above : store.vaultChangeSequence < row.sequence)
    (last : row.sequence = next.vaultChangeSequence) : Advances store next := by
  refine ⟨by omega, ?_, ?_⟩
  · intro key held found
    by_cases mine : key = tx.itemKey
    · subst mine
      have revision := accepted.revision
      rw [found, revisionOf, Option.elim_some] at revision
      have bound := (numbered.bounded _ held found).2
      refine ⟨row, by rw [accepted.rows, Function.update_self], .inr ⟨by omega, by omega⟩⟩
    · exact ⟨held, by rw [accepted.rows, Function.update_of_ne mine]; exact found, .inl rfl⟩
  · intro key held found
    by_cases mine : key = tx.itemKey
    · rw [accepted.rows, mine, Function.update_self] at found
      cases found
      exact .inr above
    · rw [accepted.rows, Function.update_of_ne mine] at found
      exact .inl found

theorem numbered_accepted (numbered : Numbered store) {row : ItemRow}
    (accepted : Accepted store next tx row)
    (keyed : Keyed store → (row.vaultId, row.itemId) = tx.itemKey)
    (above : store.vaultChangeSequence < row.sequence)
    (last : row.sequence = next.vaultChangeSequence) : Numbered next := by
  have cases' {key : Id × Id} {held : ItemRow} (found : next.rows key = some held) :
      key = tx.itemKey ∧ held = row ∨ store.rows key = some held := by
    by_cases mine : key = tx.itemKey
    · rw [accepted.rows, mine, Function.update_self] at found
      exact .inl ⟨mine, (Option.some.inj found).symm⟩
    · rw [accepted.rows, Function.update_of_ne mine] at found
      exact .inr found
  refine ⟨?_, ?_, ?_⟩
  · intro key held found
    rcases cases' found with ⟨rfl, rfl⟩ | old
    · exact keyed numbered.keyed
    · exact numbered.keyed key held old
  · intro key held found
    rcases cases' found with ⟨rfl, rfl⟩ | old
    · omega
    · have bound := numbered.bounded key held old
      omega
  · intro key other held otherHeld found otherFound same
    rcases cases' found with ⟨rfl, rfl⟩ | old
    · rcases cases' otherFound with ⟨rfl, rfl⟩ | other
      · rfl
      · have bound := numbered.bounded _ _ other
        omega
    · rcases cases' otherFound with ⟨rfl, rfl⟩ | other
      · have bound := numbered.bounded _ _ old
        omega
      · exact numbered.distinct _ _ _ _ old other same

theorem Applied.advances (numbered : Numbered store) {result : Store × ApplyOutcome}
    (applied : Applied store tx result) : Advances store result.1 ∧ Numbered result.1 := by
  cases applied with
  | replayed row found => exact ⟨advances_of_rows rfl rfl, numbered⟩
  | refused next outcome rows outcomes sequence =>
      exact ⟨advances_of_rows rows sequence, numbered_of_rows numbered rows sequence⟩
  | conflicted next body rows outcomes sequence =>
      exact ⟨advances_of_rows rows sequence, numbered_of_rows numbered rows sequence⟩
  | accepted next row accepted keyed above last =>
      exact ⟨advances_accepted numbered accepted above last,
        numbered_accepted numbered accepted keyed above last⟩

theorem Applied.rows {result : Store × ApplyOutcome} (applied : Applied store tx result)
    {key : Id × Id} (other : key ≠ tx.itemKey) : result.1.rows key = store.rows key := by
  cases applied with
  | replayed row found => rfl
  | refused next outcome rows => rw [rows]
  | conflicted next body rows => rw [rows]
  | accepted next row accepted => rw [accepted.rows, Function.update_of_ne other]

end Mutations

section Past

variable {store next : Store} {backend : Backend} {record : ItemRecord}

/-- The row has been this record, and is it unless its revision is later. -/
def Past (store : Store) (backend : Backend) (record : ItemRecord) : Prop :=
  ∃ row, store.rows (record.vaultId, record.itemId) = some row ∧ record.revision ≤ row.revision ∧
    (record.revision = row.revision → record = toItemRecord backend row)

theorem Past.advance (past : Past store backend record) (advances : Advances store next) :
    Past next backend record := by
  obtain ⟨row, found, revision, same⟩ := past
  obtain ⟨later, there, unchanged | ⟨newer, -⟩⟩ := advances.kept _ row found
  · rw [unchanged] at there
    exact ⟨row, there, revision, same⟩
  · exact ⟨later, there, by omega, fun equal => by omega⟩

theorem past_row (keyed : Keyed store) {key : Id × Id} {row : ItemRow}
    (found : store.rows key = some row) : Past store backend (toItemRecord backend row) := by
  have own := keyed key row found
  rw [← own] at found
  exact ⟨row, found, le_rfl, fun _ => rfl⟩

/-- A 201 answers with a record that the row has been. -/
def Genuine (store : Store) (backend : Backend) (outcome : ApplyOutcome) : Prop :=
  ∀ body, outcome = .response 201 body → ∃ record, body = .record record ∧ Past store backend record

theorem Genuine.advance {outcome : ApplyOutcome} (genuine : Genuine store backend outcome)
    (advances : Advances store next) : Genuine next backend outcome := by
  intro body is
  obtain ⟨record, same, past⟩ := genuine body is
  exact ⟨record, same, past.advance advances⟩

def Recorded (store : Store) (backend : Backend) : Prop :=
  ∀ key outcome, store.outcomes key = some outcome →
    Genuine store backend (.response outcome.statusCode outcome.responseBody)

theorem Recorded.advance (recorded : Recorded store backend) (advances : Advances store next)
    (outcomes : next.outcomes = store.outcomes) : Recorded next backend := by
  intro key outcome found
  rw [outcomes] at found
  exact (recorded key outcome found).advance advances

theorem Recorded.update (recorded : Recorded store backend) (advances : Advances store next)
    {key : Id × Id} {outcome : MutationOutcome}
    (genuine : Genuine next backend (.response outcome.statusCode outcome.responseBody))
    (outcomes : next.outcomes = Function.update store.outcomes key (some outcome)) :
    Recorded next backend := by
  intro other held found
  rw [outcomes] at found
  by_cases mine : other = key
  · rw [mine, Function.update_self] at found
    cases found
    exact genuine
  · rw [Function.update_of_ne mine] at found
    exact (recorded other held found).advance advances

theorem Applied.genuine {tx : Tx} (numbered : Numbered store) (recorded : Recorded store backend)
    (same : tx.backend = backend) {result : Store × ApplyOutcome}
    (applied : Applied store tx result) :
    Recorded result.1 backend ∧ Genuine result.1 backend result.2 := by
  have onward := applied.advances numbered
  cases applied with
  | replayed row found => exact ⟨recorded, recorded _ row found⟩
  | refused next outcome rows outcomes sequence refused =>
      exact ⟨recorded.advance onward.1 outcomes, fun body is => absurd is (refused 201 body)⟩
  | conflicted next body rows outcomes sequence =>
      have conflict : Genuine next backend (.response 409 body) := by
        intro other is
        cases is
      exact ⟨recorded.update onward.1 conflict outcomes, conflict⟩
  | accepted next row accepted keyed above last =>
      have found : next.rows tx.itemKey = some row := by
        rw [accepted.rows, Function.update_self]
      have created : Genuine next backend
          (.response 201 (.record (toItemRecord tx.backend row))) := by
        rintro _ ⟨⟩
        rw [same]
        exact ⟨_, rfl, past_row onward.2.keyed found⟩
      exact ⟨recorded.update onward.1 created accepted.outcomes, created⟩

end Past

namespace Tables

structure Sound (database : Tables) (backend : Backend) : Prop where
  numbered : Numbered database.store
  recorded : Recorded database.store backend
  nodup : database.itemKeys.Nodup
  listed : ∀ key row, database.store.rows key = some row → key ∈ database.itemKeys
  valid : ∀ key row, database.store.rows key = some row → isValidId key.1 = true

variable {database : Tables} {backend : Backend} {accountId vaultId : Id} {mutation : Mutation}
  {now : Timestamp}

theorem sound_empty : empty.Sound backend where
  numbered := numbered_empty
  recorded _ _ found := by cases found
  nodup := List.nodup_nil
  listed _ _ found := by cases found
  valid _ _ found := by cases found

theorem postMutation_cases (store : Store) (backend : Backend) (accountId vaultId : Id)
    (mutation : Mutation) (now : Timestamp) :
    Sync.postMutation store backend accountId vaultId mutation now = (store, .badRequest) ∨
      ∃ tx, tx.backend = backend ∧ tx.itemKey = (mutation.vaultId, mutation.itemId) ∧
        isValidId mutation.vaultId = true ∧
        Applied store tx (Sync.postMutation store backend accountId vaultId mutation now) := by
  unfold Sync.postMutation
  split
  · exact .inl rfl
  · rename_i tx checked
    obtain ⟨same, -, asked⟩ := postItem_request checked
    refine .inr ⟨tx, same, ?_, ?_, applyMutation_cases store tx⟩
    · rw [Tx.itemKey, asked]
    · unfold postItem at checked
      split at checked
      · rename_i valid
        rw [Bool.and_eq_true, Bool.and_eq_true, beq_iff_eq] at valid
        rw [valid.2]
        exact valid.1.1
      · cases checked

theorem Sound.postMutation (sound : database.Sound backend) :
    let result := database.postMutation backend accountId vaultId mutation now
    result.1.Sound backend ∧ Advances database.store result.1.store ∧
      Genuine result.1.store backend result.2 := by
  simp only [Tables.postMutation]
  rcases postMutation_cases database.store backend accountId vaultId mutation now with
    refused | ⟨tx, same, key, valid, applied⟩
  · rw [refused]
    refine ⟨⟨sound.numbered, sound.recorded, sound.nodup.insert, ?_, sound.valid⟩,
      advances_of_rows rfl rfl, nofun⟩
    exact fun key row found => List.mem_insert_of_mem (sound.listed key row found)
  · generalize Sync.postMutation database.store backend accountId vaultId mutation now = result
      at applied
    obtain ⟨advances, numbered⟩ := applied.advances sound.numbered
    obtain ⟨recorded, genuine⟩ := applied.genuine sound.numbered sound.recorded same
    refine ⟨⟨numbered, recorded, sound.nodup.insert, ?_, ?_⟩, advances, genuine⟩
    · intro other row found
      by_cases mine : other = tx.itemKey
      · rw [mine, key]
        exact List.mem_insert_self
      · dsimp only at found
        rw [applied.rows mine] at found
        exact List.mem_insert_of_mem (sound.listed other row found)
    · intro other row found
      by_cases mine : other = tx.itemKey
      · rw [mine, key]
        exact valid
      · dsimp only at found
        rw [applied.rows mine] at found
        exact sound.valid other row found

theorem mem_vaultRows (sound : database.Sound backend) {row : ItemRow} :
    row ∈ database.vaultRows vaultId ↔ database.store.rows (vaultId, row.itemId) = some row := by
  rw [vaultRows, List.mem_filter, List.mem_filterMap, beq_iff_eq]
  constructor
  · rintro ⟨⟨key, -, found⟩, rfl⟩
    rw [← sound.numbered.keyed key row found] at found
    exact found
  · intro found
    have own := sound.numbered.keyed _ row found
    exact ⟨⟨_, sound.listed _ row found, found⟩, (Prod.mk.inj own).1⟩

theorem vaultRows_nodup (sound : database.Sound backend) : (database.vaultRows vaultId).Nodup := by
  refine (sound.nodup.filterMap fun key other row first second => ?_).filter _
  rw [← sound.numbered.keyed key row first, ← sound.numbered.keyed other row second]

theorem vaultRows_injective (sound : database.Sound backend) :
    ∀ a ∈ database.vaultRows vaultId, ∀ b ∈ database.vaultRows vaultId,
      a.sequence = b.sequence → a = b := by
  intro a ha b hb same
  rw [mem_vaultRows sound] at ha hb
  have key := sound.numbered.distinct _ _ a b ha hb same
  rw [key, hb] at ha
  exact (Option.some.inj ha).symm

def Reached (store : Store) (vaultId : Id) (sequence : Nat) : Prop :=
  sequence = 0 ∨ ∃ itemId row, store.rows (vaultId, itemId) = some row ∧ sequence ≤ row.sequence

/-- A page has all the rows between two sequences that have not changed since. -/
def Covers (store : Store) (backend : Backend) (vaultId : Id) (after last : Nat)
    (records : List ItemRecord) : Prop :=
  ∀ itemId row, store.rows (vaultId, itemId) = some row → after < row.sequence →
    row.sequence ≤ last → toItemRecord backend row ∈ records

theorem Reached.advance {store next : Store} {sequence : Nat}
    (reached : Reached store vaultId sequence) (advances : Advances store next) :
    Reached next vaultId sequence := by
  rcases reached with zero | ⟨itemId, row, found, bound⟩
  · exact .inl zero
  · obtain ⟨later, there, unchanged | ⟨-, higher⟩⟩ := advances.kept _ row found
    · rw [unchanged] at there
      exact .inr ⟨itemId, row, there, bound⟩
    · exact .inr ⟨itemId, later, there, by omega⟩

theorem Covers.advance {store next : Store} {after last : Nat} {records : List ItemRecord}
    (covers : Covers store backend vaultId after last records) (advances : Advances store next)
    (drawn : last ≤ store.vaultChangeSequence) : Covers next backend vaultId after last records := by
  intro itemId row found above below
  rcases advances.fresh _ row found with old | new
  · exact covers itemId row old above below
  · omega

structure ServedPage (store : Store) (backend : Backend) (vaultId : Id) (cursor : Option String)
    (records : List ItemRecord) (nextCursor : String) : Prop where
  past : ∀ record ∈ records, record.vaultId = vaultId ∧ Past store backend record
  page : (records = [] ∧ nextCursor = cursor.getD (encodeCursor 0)) ∨
    ∃ after last, cursorSequence backend cursor = some after ∧ nextCursor = encodeCursor last ∧
      last ≤ store.vaultChangeSequence ∧ Reached store vaultId last ∧
      Covers store backend vaultId after last records

theorem ServedPage.advance {store next : Store} {cursor : Option String}
    {records : List ItemRecord} {nextCursor : String}
    (served : ServedPage store backend vaultId cursor records nextCursor)
    (advances : Advances store next) :
    ServedPage next backend vaultId cursor records nextCursor where
  past record member :=
    ⟨(served.past record member).1, (served.past record member).2.advance advances⟩
  page := by
    rcases served.page with empty | ⟨after, last, known, is, drawn, reached, covers⟩
    · exact .inl empty
    · have later := advances.sequence
      exact .inr ⟨after, last, known, is, by omega, reached.advance advances,
        covers.advance advances drawn⟩

theorem getChanges_cases {cursor : Option String} {limit : Option Int}
    {records : List ItemRecord} {nextCursor : String}
    (served : database.getChanges backend accountId vaultId cursor limit =
      some (records, nextCursor)) :
    ∃ after size, isValidId vaultId = true ∧ cursorSequence backend cursor = some after ∧
      pageLimit limit = some size ∧ database.store.owners vaultId = some accountId ∧
      records = (database.listChanges vaultId after size).map (toItemRecord backend) ∧
      nextCursor = (database.listChanges vaultId after size).getLast?.elim
        (cursor.getD (encodeCursor 0)) fun row => encodeCursor row.sequence := by
  unfold getChanges at served
  split at served
  · rename_i valid
    split at served
    · rename_i after size known limited
      split at served
      · rename_i owner
        cases served
        exact ⟨after, size, valid, known, limited, owner, rfl, rfl⟩
      · cases served
    · cases served
  · cases served

theorem Sound.getChanges (sound : database.Sound backend) {cursor : Option String}
    {limit : Option Int} {records : List ItemRecord} {nextCursor : String}
    (served : database.getChanges backend accountId vaultId cursor limit =
      some (records, nextCursor)) :
    ServedPage database.store backend vaultId cursor records nextCursor := by
  obtain ⟨after, size, -, known, -, -, rfl, rfl⟩ := getChanges_cases served
  have member {row : ItemRow} (there : row ∈ database.listChanges vaultId after size) :
      database.store.rows (vaultId, row.itemId) = some row :=
    (mem_vaultRows sound).mp (Paging.mem_of_mem_page there).1
  constructor
  · intro record there
    obtain ⟨row, listed, rfl⟩ := List.mem_map.mp there
    have found := member listed
    exact ⟨(Prod.mk.inj (sound.numbered.keyed _ row found)).1, past_row sound.numbered.keyed found⟩
  · cases final : (database.listChanges vaultId after size).getLast? with
    | none =>
        rw [List.getLast?_eq_none_iff] at final
        exact .inl ⟨by rw [final]; rfl, rfl⟩
    | some last =>
        have found := member (List.mem_of_getLast? final)
        refine .inr ⟨after, last.sequence, known, rfl, (sound.numbered.bounded _ last found).2,
          .inr ⟨last.itemId, last, found, le_rfl⟩, ?_⟩
        intro itemId row there above below
        have own := (Prod.mk.inj (sound.numbered.keyed _ row there)).2
        rw [← own] at there
        exact List.mem_map_of_mem (Paging.mem_page_of_le_last (vaultRows_injective sound) final
          ((mem_vaultRows sound).mpr there) above below)

end Tables

end ZenPass.Sync
