import ZenPass.Sync.Rendering
import ZenPass.Web.Mirror

set_option autoImplicit false

namespace ZenPass.Web

open Sdk Transition

section Definitions

variable {σ : Type} (repo : LocalRepository σ ItemRecord RecordConflictError)
  (timeText : Sync.WireTime → String) (backend : Sync.Backend)

/-- The replies to a pull from the cursor, while no mutation runs. -/
def servedReplies (database : Sync.Tables) (accountId vaultId : Id) (limit : Option Int) :
    Nat → Option String → List (Option (ChangePage ItemRecord))
  | 0, _ => []
  | pages + 1, cursor =>
      match database.getChanges backend accountId vaultId cursor limit with
      | none => [none]
      | some (records, nextCursor) =>
          some (pageOf timeText records nextCursor) ::
            servedReplies database accountId vaultId limit pages (some nextCursor)

-- Every field of the record is that of the row, the bytes in base64 and the times as the backend
-- writes them.
structure Reflects (record : ItemRecord) (row : Sync.ItemRow) : Prop where
  itemId : record.itemId = row.itemId
  vaultId : record.vaultId = row.vaultId
  ciphertext : record.ciphertext = Wire.encodeB64 row.ciphertext
  envelopeVersion : record.envelopeVersion = row.envelopeVersion
  revision : record.revision = row.revision
  deleted : record.deleted = row.deleted
  createdAt : record.createdAt = timeText (Sync.wireTime backend row.createdAt)
  updatedAt : record.updatedAt = timeText (Sync.wireTime backend row.updatedAt)

/-- The repository has the rows of the vault, the pull has written each row after its cursor once,
and the stored cursor is the vault's highest sequence. -/
structure Mirrored (database : Sync.Tables) (vaultId : Id) (after : Nat) (state : σ)
    (written : List ItemRecord) : Prop where
  records : ∀ itemId, Option.Rel (Reflects timeText backend) (repo.getItem state vaultId itemId)
    (database.store.rows (vaultId, itemId))
  listed : ∀ record, record ∈ repo.listItems state vaultId ↔
    ∃ row ∈ database.vaultRows vaultId, Reflects timeText backend record row
  once : written.Nodup ∧ ∀ record, record ∈ written ↔
    ∃ row ∈ database.vaultRows vaultId, after < row.sequence ∧ Reflects timeText backend record row
  cursor : ∃ highest, repo.getCursor state vaultId = some (Wire.encodeCursor highest) ∧
    (∀ row ∈ database.vaultRows vaultId, row.sequence ≤ highest) ∧
    (highest = 0 ∨ ∃ row ∈ database.vaultRows vaultId, row.sequence = highest)

end Definitions

section Quiescent

variable {σ : Type} {repo : LocalRepository σ ItemRecord RecordConflictError} {kept : σ → Prop}
  {timeText : Sync.WireTime → String} {backend : Sync.Backend} {database : Sync.Tables}
  {state : σ} {vaultId : Id}

theorem assertMonotonicPut_of_later {existing incoming : ItemRecord}
    (later : existing.revision < incoming.revision ∨ existing = incoming) :
    (assertMonotonicPut (some existing) incoming).isOk = true := by
  rcases later with higher | rfl
  · have notLower : ¬ incoming.revision < existing.revision := by omega
    have different : incoming.revision ≠ existing.revision := by omega
    simp [assertMonotonicPut, notLower, different, Except.isOk, Except.toBool]
  · simp [assertMonotonicPut, sameRecordBytes, Except.isOk, Except.toBool]

theorem pageLimit_pos {limit : Option Int} {size : Nat}
    (limited : Sync.pageLimit limit = some size) : 0 < size := by
  unfold Sync.pageLimit at limited
  split at limited
  · cases limited
    decide
  · split at limited
    · cases limited
      omega
    · cases limited

theorem getChanges_of_owner {accountId : Id} {cursor : Option String} {limit : Option Int}
    {after size : Nat} (valid : Sync.isValidId vaultId = true)
    (known : Sync.Tables.cursorSequence backend cursor = some after)
    (limited : Sync.pageLimit limit = some size)
    (owner : database.store.owners vaultId = some accountId) :
    database.getChanges backend accountId vaultId cursor limit =
      some ((database.listChanges vaultId after size).map (Sync.toItemRecord backend),
        (database.listChanges vaultId after size).getLast?.elim
          (cursor.getD (Wire.encodeCursor 0)) fun row => Wire.encodeCursor row.sequence) := by
  simp [Sync.Tables.getChanges, valid, known, limited, owner]

structure PulledTo (repo : LocalRepository σ ItemRecord RecordConflictError) (kept : σ → Prop)
    (timeText : Sync.WireTime → String) (backend : Sync.Backend) (database : Sync.Tables)
    (vaultId : Id) (after size pages pagesApplied : Nat) (before : σ × List ItemRecord)
    (result : (σ × List ItemRecord) × PullOutcome RecordConflictError) : Prop where
  follows : Follows repo kept timeText backend database.store result.1.1
  written : result.1.2 = before.2 ++
    ((Paging.above Sync.ItemRow.sequence (database.vaultRows vaultId) after).take
      (size * pages)).map (rowText timeText backend)
  outcome : ∃ applied items cursor, result.2 = .applied applied items cursor ∧
    (applied < pagesApplied + pages →
      (Paging.above Sync.ItemRow.sequence (database.vaultRows vaultId) after).length ≤ size * pages)
  rest : ∃ last, (repo.getCursor result.1.1 vaultId).getD (Wire.encodeCursor 0) =
      Wire.encodeCursor last ∧
    Paging.above Sync.ItemRow.sequence (database.vaultRows vaultId) last =
      (Paging.above Sync.ItemRow.sequence (database.vaultRows vaultId) after).drop (size * pages)
  stored : (0 < pages ∨ (repo.getCursor before.1 vaultId).isSome = true) →
    (repo.getCursor result.1.1 vaultId).isSome = true

theorem Follows.pulledTo_zero (follows : Follows repo kept timeText backend database.store state)
    (sound : database.Sound backend) {after : Nat}
    (known : Sync.Tables.cursorSequence backend (repo.getCursor state vaultId) = some after)
    (size pagesApplied itemsApplied : Nat) (log : List ItemRecord) :
    PulledTo repo kept timeText backend database vaultId after size 0 pagesApplied (state, log)
      ((state, log), .applied pagesApplied itemsApplied (repo.getCursor state vaultId)) := by
  obtain ⟨start, decoded, encodes, -⟩ := follows.cursorSequence sound vaultId
  rw [known] at decoded
  cases decoded
  refine ⟨follows, by simp, ⟨_, _, _, rfl, fun less => by omega⟩, ⟨after, encodes, by simp⟩, ?_⟩
  rintro (less | already)
  · omega
  · exact already

theorem Follows.pulledTo_empty (follows : Follows repo kept timeText backend database.store state)
    {after size : Nat} {cursor : String}
    (none_ : Paging.above Sync.ItemRow.sequence (database.vaultRows vaultId) after = [])
    (stored : repo.getCursor state vaultId = some cursor) (is : cursor = Wire.encodeCursor after)
    (pages pagesApplied itemsApplied : Nat) (before : σ) (log : List ItemRecord)
    (held : Option String) :
    PulledTo repo kept timeText backend database vaultId after size (pages + 1) pagesApplied
      (before, log) ((state, log), .applied (pagesApplied + 1) itemsApplied held) := by
  refine ⟨follows, by simp [none_], ⟨_, _, _, rfl, fun _ => by simp [none_]⟩, ⟨after, ?_, ?_⟩, ?_⟩
  · rw [stored, is, Option.getD_some]
  · rw [none_, List.drop_nil]
  · simp [stored]

theorem PulledTo.after_page {after size pages pagesApplied : Nat} {last : Sync.ItemRow}
    {before middle : σ} {log : List ItemRecord}
    {result : (σ × List ItemRecord) × PullOutcome RecordConflictError}
    (sound : database.Sound backend)
    (final : (database.listChanges vaultId after size).getLast? = some last)
    (stored : (repo.getCursor middle vaultId).isSome = true)
    (pulled : PulledTo repo kept timeText backend database vaultId last.sequence size pages
      (pagesApplied + 1) (middle, log ++ (database.listChanges vaultId after size).map
        (rowText timeText backend)) result) :
    PulledTo repo kept timeText backend database vaultId after size (pages + 1) pagesApplied
      (before, log) result := by
  have rest := Paging.above_last (Sync.Tables.vaultRows_nodup sound)
    (Sync.Tables.vaultRows_injective sound) final
  obtain ⟨follows, written, ⟨applied, items, cursor, is, bound⟩, ⟨reached, encodes, left⟩, kept'⟩ :=
    pulled
  rw [rest] at written bound left
  refine ⟨follows, ?_, ⟨applied, items, cursor, is, ?_⟩, ⟨reached, encodes, ?_⟩, ?_⟩
  · rw [written, Sync.Tables.listChanges, Paging.page, Nat.mul_succ, Nat.add_comm, List.take_add,
      List.map_append, List.append_assoc]
  · intro less
    have short := bound (by omega)
    rw [List.length_drop] at short
    rw [Nat.mul_succ]
    omega
  · rw [left, List.drop_drop, Nat.mul_succ, Nat.add_comm]
  · exact fun _ => kept' (.inr stored)

section Laws

variable (laws : repo.RecordLaws kept)
include laws

theorem Follows.putRow (follows : Follows repo kept timeText backend database.store state)
    (sound : database.Sound backend) {row : Sync.ItemRow}
    (found : database.store.rows (vaultId, row.itemId) = some row) :
    ∃ next, repo.putItem state (rowText timeText backend row) = .ok next ∧
      Follows repo kept timeText backend database.store next := by
  have own := sound.numbered.keyed _ row found
  have vault : row.vaultId = vaultId := (Prod.mk.inj own).1
  have accepted : (repo.putItem state (rowText timeText backend row)).isOk = true := by
    rw [laws.putItem_iff]
    change (assertMonotonicPut (repo.getItem state row.vaultId row.itemId) _).isOk = true
    rw [vault]
    cases there : repo.getItem state vaultId row.itemId with
    | none => rfl
    | some existing =>
        obtain ⟨wire, rfl, wireVault, wireItem, past⟩ := follows.records vaultId row.itemId existing
          (plain_of_valid (sound.valid _ row found)) there
        have past' := past
        obtain ⟨held, heldThere, older, -⟩ := past'
        rw [wireVault, wireItem, found] at heldThere
        cases heldThere
        apply assertMonotonicPut_of_later
        rcases Nat.lt_or_eq_of_le older with lower | equal
        · exact .inl (Int.ofNat_lt.mpr lower)
        · right
          rw [eq_of_past past found wireVault wireItem equal.ge, rowText]
  cases put : repo.putItem state (rowText timeText backend row) with
  | error error =>
      rw [put] at accepted
      cases accepted
  | ok next => exact ⟨next, rfl, follows.put laws sound (Sync.past_row sound.numbered.keyed found) put⟩

theorem Follows.applyRows (follows : Follows repo kept timeText backend database.store state)
    (sound : database.Sound backend) {rows : List Sync.ItemRow}
    (found : ∀ row ∈ rows, database.store.rows (vaultId, row.itemId) = some row)
    (log : List ItemRecord) (itemsApplied : Nat) :
    let result := Sdk.applyChanges repo.logged ItemRecord.vaultId vaultId (state, log) itemsApplied
      (rows.map (rowText timeText backend))
    result.2 = (itemsApplied + rows.length, none) ∧
      result.1.2 = log ++ rows.map (rowText timeText backend) := by
  induction rows generalizing state log itemsApplied with
  | nil => simp [Sdk.applyChanges]
  | cons row rest ih =>
      have here := found row List.mem_cons_self
      have own : row.vaultId = vaultId := (Prod.mk.inj (sound.numbered.keyed _ row here)).1
      have same : (rowText timeText backend row).vaultId = vaultId := own
      obtain ⟨next, put, onto⟩ := follows.putRow laws sound here
      obtain ⟨counted, logged⟩ := ih onto (fun other member => found other (.tail _ member))
        (log ++ [rowText timeText backend row]) (itemsApplied + 1)
      have step : Sdk.applyChanges repo.logged ItemRecord.vaultId vaultId (state, log) itemsApplied
          ((row :: rest).map (rowText timeText backend)) =
          Sdk.applyChanges repo.logged ItemRecord.vaultId vaultId
            (next, log ++ [rowText timeText backend row]) (itemsApplied + 1)
            (rest.map (rowText timeText backend)) := by
        rw [List.map_cons, Sdk.applyChanges, if_neg (fun different => different same)]
        simp only [LocalRepository.logged, put]
      rw [step]
      refine ⟨?_, ?_⟩
      · rw [counted, List.length_cons]
        simp only [Prod.mk.injEq, and_true]
        omega
      · rw [logged, List.append_assoc]
        rfl

theorem Follows.applyPage (follows : Follows repo kept timeText backend database.store state)
    (sound : database.Sound backend) {accountId : Id} {limit : Option Int} {rows : List Sync.ItemRow}
    {nextCursor : String} (found : ∀ row ∈ rows, database.store.rows (vaultId, row.itemId) = some row)
    (served : database.getChanges backend accountId vaultId (repo.getCursor state vaultId) limit =
      some (rows.map (Sync.toItemRecord backend), nextCursor))
    (log : List ItemRecord) (itemsApplied : Nat) :
    ∃ next, Sdk.applyChanges repo.logged ItemRecord.vaultId vaultId (state, log) itemsApplied
        (rows.map (rowText timeText backend)) =
          ((next, log ++ rows.map (rowText timeText backend)), itemsApplied + rows.length, none) ∧
      Follows repo kept timeText backend database.store (repo.setCursor next vaultId nextCursor) := by
  obtain ⟨counted, logged⟩ := follows.applyRows laws sound found log itemsApplied
  obtain ⟨same, outcome⟩ := applyChanges_logged repo ItemRecord.vaultId vaultId
    (rows.map (rowText timeText backend)) state log itemsApplied
  have records : (rows.map (Sync.toItemRecord backend)).map (recordText timeText) =
      rows.map (rowText timeText backend) := by
    rw [List.map_map]
    rfl
  have page := follows.page laws sound ItemRecord.vaultId (sound.getChanges served) itemsApplied
  rw [records] at page
  generalize Sdk.applyChanges repo ItemRecord.vaultId vaultId state itemsApplied
    (rows.map (rowText timeText backend)) = plain at same outcome page
  generalize Sdk.applyChanges repo.logged ItemRecord.vaultId vaultId (state, log) itemsApplied
    (rows.map (rowText timeText backend)) = applied at counted logged same outcome
  obtain ⟨⟨next, written⟩, rest⟩ := applied
  dsimp only at counted logged same outcome
  subst counted logged same
  obtain ⟨onto, sequence, ok⟩ := page (by rw [← outcome])
  exact ⟨_, rfl, onto.setCursor laws ok⟩

theorem Follows.pulledTo (follows : Follows repo kept timeText backend database.store state)
    (sound : database.Sound backend) {accountId : Id} {limit : Option Int} {size : Nat}
    (valid : Sync.isValidId vaultId = true) (limited : Sync.pageLimit limit = some size)
    (positive : 0 < size) (owner : database.store.owners vaultId = some accountId) {after : Nat}
    {cursor : Option String} (here : repo.getCursor state vaultId = cursor)
    (known : Sync.Tables.cursorSequence backend cursor = some after) (pages pagesApplied : Nat)
    (itemsApplied : Nat) (log : List ItemRecord) :
    PulledTo repo kept timeText backend database vaultId after size pages pagesApplied (state, log)
      (Sdk.pullPages repo.logged ItemRecord.vaultId vaultId pages
        (servedReplies timeText backend database accountId vaultId limit pages cursor) (state, log)
        cursor pagesApplied itemsApplied) := by
  induction pages generalizing state after cursor pagesApplied itemsApplied log with
  | zero =>
      subst here
      exact follows.pulledTo_zero sound known size pagesApplied itemsApplied log
  | succ pages ih =>
      subst here
      obtain ⟨start, decoded, encodes, -⟩ := follows.cursorSequence sound vaultId
      rw [known] at decoded
      cases decoded
      have served := getChanges_of_owner valid known limited owner
      have listed : ∀ row ∈ database.listChanges vaultId after size,
          database.store.rows (vaultId, row.itemId) = some row := by
        intro row member
        exact (Sync.Tables.mem_vaultRows sound).mp (Paging.mem_of_mem_page member).1
      have records (nextCursor : String) : (pageOf timeText ((database.listChanges vaultId after
          size).map (Sync.toItemRecord backend)) nextCursor).changes =
          (database.listChanges vaultId after size).map (rowText timeText backend) := by
        rw [pageOf, List.map_map]
        rfl
      obtain ⟨next, applied, onto⟩ := follows.applyPage laws sound listed served log itemsApplied
      rw [servedReplies, served]
      dsimp only
      rw [← records] at applied
      rw [pullPages_page applied rfl, records]
      generalize written : (database.listChanges vaultId after size).getLast?.elim
        ((repo.getCursor state vaultId).getD (Wire.encodeCursor 0))
        (fun row => Wire.encodeCursor row.sequence) = nextCursor at onto
      have stored : repo.getCursor (repo.setCursor next vaultId nextCursor) vaultId =
          some nextCursor := by
        rw [laws.getCursor_setCursor, if_pos rfl]
      cases final : (database.listChanges vaultId after size).getLast? with
      | none =>
          have empty := List.getLast?_eq_none_iff.mp final
          have none_ : Paging.above Sync.ItemRow.sequence (database.vaultRows vaultId) after = [] := by
            have noRow := (Paging.page_eq_nil positive).mp empty
            apply List.eq_nil_iff_forall_not_mem.mpr
            intro row member
            obtain ⟨member, above⟩ := Paging.mem_above.mp member
            exact absurd (noRow row member) (not_le.mpr above)
          rw [final, Option.elim_none, encodes] at written
          rw [empty]
          simpa [LocalRepository.logged] using
            onto.pulledTo_empty none_ stored written.symm pages pagesApplied _ state log _
      | some last =>
          rw [final, Option.elim_some] at written
          have above := (Paging.mem_of_mem_page (List.mem_of_getLast? final)).2
          have progress : some nextCursor ≠ repo.getCursor state vaultId := by
            intro same
            rw [← same, Option.getD_some, ← written] at encodes
            exact absurd (Wire.encodeCursor_injective encodes) above.ne'
          have rows : database.listChanges vaultId after size ≠ [] := by
            intro empty
            rw [empty] at final
            cases final
          rw [if_pos (by simp [rows, progress])]
          apply PulledTo.after_page sound final (by rw [stored]; rfl)
          refine ih onto stored ?_ _ _ _
          rw [← written]
          exact Wire.decodeCursor_encodeCursor _ _

end Laws

theorem rowText_injective (sound : database.Sound backend) {row other : Sync.ItemRow}
    (member : row ∈ database.vaultRows vaultId) (otherMember : other ∈ database.vaultRows vaultId)
    (same : rowText timeText backend row = rowText timeText backend other) : row = other := by
  have items : row.itemId = other.itemId := congrArg ItemRecord.itemId same
  rw [Sync.Tables.mem_vaultRows sound] at member otherMember
  rw [items, otherMember] at member
  exact (Option.some.inj member).symm

theorem reflects_iff {record : ItemRecord} {row : Sync.ItemRow} :
    Reflects timeText backend record row ↔ record = rowText timeText backend row := by
  constructor
  · intro reflects
    obtain ⟨itemId, vaultId, ciphertext, envelopeVersion, revision, deleted, createdAt, updatedAt⟩ :=
      reflects
    cases record
    simp_all [rowText, recordText, Sync.toItemRecord]
  · rintro rfl
    exact ⟨rfl, rfl, rfl, rfl, rfl, rfl, rfl, rfl⟩

theorem rel_reflects_map (row : Option Sync.ItemRow) :
    Option.Rel (Reflects timeText backend) (row.map (rowText timeText backend)) row := by
  cases row with
  | none => exact .none
  | some row => exact .some (reflects_iff.mpr rfl)

theorem PulledTo.mirrored (laws : repo.RecordLaws kept) (sound : database.Sound backend)
    (valid : Sync.isValidId vaultId = true) {after size pages pagesApplied : Nat}
    {result : (σ × List ItemRecord) × PullOutcome RecordConflictError}
    (pulled : PulledTo repo kept timeText backend database vaultId after size pages pagesApplied
      (state, []) result) (positive : 0 < pages)
    (enough : (Paging.above Sync.ItemRow.sequence (database.vaultRows vaultId) after).length ≤
      size * pages) :
    Mirrored repo timeText backend database vaultId after result.1.1 result.1.2 := by
  obtain ⟨follows, written, -, ⟨last, encodes, rest⟩, stored⟩ := pulled
  obtain ⟨cursor, found⟩ := Option.isSome_iff_exists.mp (stored (.inl positive))
  rw [found, Option.getD_some] at encodes
  obtain ⟨sequence, ok⟩ := follows.cursors vaultId cursor found
  have same : sequence = last := Wire.encodeCursor_injective (ok.encodes.symm.trans encodes)
  subst same
  have highest : ∀ row ∈ database.vaultRows vaultId, row.sequence ≤ sequence := by
    intro row member
    rw [List.drop_of_length_le enough] at rest
    by_contra higher
    have left := Paging.mem_above.mpr ⟨member, not_le.mp higher⟩
    rw [rest] at left
    cases left
  have records (itemId : Id) : repo.getItem result.1.1 vaultId itemId =
      (database.store.rows (vaultId, itemId)).map (rowText timeText backend) := by
    cases there : database.store.rows (vaultId, itemId) with
    | none =>
        rw [Option.map_none, Option.eq_none_iff_forall_ne_some]
        intro record has
        obtain ⟨wire, -, vault, item, row, stands, -⟩ := follows.records vaultId itemId record
          (plain_of_valid valid) has
        rw [vault, item, there] at stands
        cases stands
    | some row =>
        have own := (Prod.mk.inj (sound.numbered.keyed _ row there)).2
        rw [← own] at there ⊢
        exact ok.caughtUp row.itemId row there
          (highest row ((Sync.Tables.mem_vaultRows sound).mpr there))
  rw [List.take_of_length_le enough] at written
  refine ⟨fun itemId => records itemId ▸ rel_reflects_map _, ?_, ⟨?_, ?_⟩, sequence,
    found.trans (congrArg some encodes), highest, ?_⟩
  · intro record
    simp only [reflects_iff]
    rw [laws.mem_listItems _ follows.kept, records, Option.map_eq_some_iff]
    constructor
    · rintro ⟨-, row, there, rfl⟩
      exact ⟨row, (Sync.Tables.mem_vaultRows sound).mpr there, rfl⟩
    · rintro ⟨row, member, rfl⟩
      have there := (Sync.Tables.mem_vaultRows sound).mp member
      exact ⟨(Prod.mk.inj (sound.numbered.keyed _ row there)).1, row, there, rfl⟩
  · rw [written]
    refine List.Nodup.map_on ?_ (Paging.nodup_above (Sync.Tables.vaultRows_nodup sound))
    intro row member other otherMember same
    exact rowText_injective sound (Paging.mem_above.mp member).1
      (Paging.mem_above.mp otherMember).1 same
  · intro record
    simp only [reflects_iff]
    rw [written, List.nil_append, List.mem_map]
    constructor
    · rintro ⟨row, member, rfl⟩
      obtain ⟨member, above⟩ := Paging.mem_above.mp member
      exact ⟨row, member, above, rfl⟩
    · rintro ⟨row, member, above, rfl⟩
      exact ⟨row, Paging.mem_above.mpr ⟨member, above⟩, rfl⟩
  · rcases ok.reached with zero | ⟨itemId, row, there, reached⟩
    · exact .inl zero
    · right
      have own := (Prod.mk.inj (sound.numbered.keyed _ row there)).2
      rw [← own] at there
      have member := (Sync.Tables.mem_vaultRows sound).mpr there
      exact ⟨row, member, le_antisymm (highest row member) reached⟩

/-- Whatever mutations, pushes and pulls came before, a pull that no mutation overlaps and that ends
before its last page leaves the records of the vault equal to its rows. It ends so when its pages
have room for the rows after the cursor. -/
theorem quiescent_pull_converges (lawful : repo.Lawful) (laws : repo.RecordLaws kept) {start : σ}
    (fresh : repo.Fresh start) (startKept : kept start) (backoff : BackoffOptions)
    {actions : List MirrorAction} {mirror : Mirror σ}
    (ran : run (mirrorStep repo timeText backend backoff) (Mirror.initial start) actions =
      some mirror)
    (accountId vaultId : Id) (limit : Option Int) (maxPages : Nat) :
    let cursor := repo.getCursor mirror.state vaultId
    let replies := servedReplies timeText backend mirror.database accountId vaultId limit maxPages
      cursor
    let pulled := pull repo ItemRecord.vaultId vaultId maxPages replies mirror.state
    let written := (pull repo.logged ItemRecord.vaultId vaultId maxPages replies
      (mirror.state, [])).1.2
    ∃ after, Sync.Tables.cursorSequence backend cursor = some after ∧
      (∀ pagesApplied itemsApplied last, pulled.2 = .applied pagesApplied itemsApplied last →
        pagesApplied < maxPages →
          Mirrored repo timeText backend mirror.database vaultId after pulled.1 written) ∧
      (Sync.isValidId vaultId = true → mirror.database.store.owners vaultId = some accountId →
        ∀ size, Sync.pageLimit limit = some size →
          (∃ pagesApplied itemsApplied last,
            pulled.2 = .applied pagesApplied itemsApplied last) ∧
          (0 < maxPages →
            ((mirror.database.vaultRows vaultId).filter
              fun row => decide (after < row.sequence)).length ≤ size * maxPages →
            Mirrored repo timeText backend mirror.database vaultId after pulled.1 written)) := by
  intro cursor replies pulled written
  have initial : (Mirror.initial start).Sound repo kept timeText backend :=
    Mirror.sound_initial fresh startKept
  obtain ⟨database, follows, -, -⟩ := initial.run laws lawful ran
  obtain ⟨after, known, -, -⟩ := follows.cursorSequence database vaultId
  obtain ⟨same, outcome⟩ := pull_logged repo ItemRecord.vaultId vaultId maxPages replies
    mirror.state []
  have whole {size : Nat} (valid : Sync.isValidId vaultId = true)
      (owner : mirror.database.store.owners vaultId = some accountId)
      (limited : Sync.pageLimit limit = some size) :
      PulledTo repo kept timeText backend mirror.database vaultId after size maxPages 0
        (mirror.state, []) (pull repo.logged ItemRecord.vaultId vaultId maxPages replies
          (mirror.state, [])) :=
    follows.pulledTo laws database valid limited (pageLimit_pos limited) owner rfl known maxPages 0
      0 []
  refine ⟨after, known, ?_, ?_⟩
  · intro pagesApplied itemsApplied last is less
    obtain ⟨pages, rfl⟩ : ∃ pages, maxPages = pages + 1 := ⟨maxPages - 1, by omega⟩
    cases served : mirror.database.getChanges backend accountId vaultId cursor limit with
    | none =>
        have failed : pulled.2 = .requestFailed 0 := by
          simp only [pulled, replies, servedReplies, served, pull, pullPages]
        rw [failed] at is
        cases is
    | some page =>
        obtain ⟨-, size, valid, -, limited, owner, -⟩ := Sync.Tables.getChanges_cases served
        have done := whole valid owner limited
        obtain ⟨applied, items, stored, ended, bound⟩ := done.outcome
        rw [outcome, is] at ended
        cases ended
        have mirrored := done.mirrored laws database valid (by omega) (bound (by omega))
        rw [same] at mirrored
        exact mirrored
  · intro valid owner size limited
    have done := whole valid owner limited
    obtain ⟨applied, items, stored, ended, -⟩ := done.outcome
    rw [outcome] at ended
    refine ⟨⟨applied, items, stored, ended⟩, fun positive enough => ?_⟩
    rw [← Paging.length_above] at enough
    have mirrored := done.mirrored laws database valid positive enough
    rw [same] at mirrored
    exact mirrored

end Quiescent

section Samples

def sampleTimeText (time : Sync.WireTime) : String := time.text.getD ""

def mirrorSampleStep (mirror : Mirror InMemoryLocalRepository) (action : MirrorAction) :
    Option (Mirror InMemoryLocalRepository) :=
  mirrorStep InMemoryLocalRepository.operations sampleTimeText .node defaultBackoff mirror action

def mirrorSampleMutation (mutationId itemId : Id) (baseRevision : Int) (deleted : Bool) : Mutation :=
  { Sync.sampleMutation mutationId itemId "b64:AAAA" baseRevision with deleted }

def mirrorSampleActions : List MirrorAction :=
  let row : Sync.ItemRow := ⟨"vault", "item", [0, 0, 0], Sync.envelopeVersionV1, 1, false, 0, 0, 1⟩
  let pushed : Sync.ItemRow :=
    ⟨"vault", "other", [0, 0, 0], Sync.envelopeVersionV1, 1, false, 5000, 5000, 2⟩
  [.mutate "account" "vault" (mirrorSampleMutation "m1" "item" 0 false) 0,
    .getChanges "account" "vault" none (some 1),
    .mutate "account" "vault" (mirrorSampleMutation "m2" "other" 0 false) 5000,
    .pull "vault" 1 [some (pageOf sampleTimeText [Sync.toItemRecord .node row]
      (Wire.encodeCursor 1))],
    .pushOne ⟨mirrorSampleMutation "m2" "other" 0 false, .localDirty, 0, none, none⟩ 0
      (some "token") (.response 201 (.json (.record (rowText sampleTimeText .node pushed)))),
    .mutate "account" "vault" (mirrorSampleMutation "m3" "item" 1 true) 7000]

def mirrorSample : Mirror InMemoryLocalRepository :=
  reached mirrorSampleStep (.initial InMemoryLocalRepository.empty) mirrorSampleActions

theorem quiescent_pull_converges_deleted :
    let cursor := InMemoryLocalRepository.operations.getCursor mirrorSample.state "vault"
    let replies := servedReplies sampleTimeText .node mirrorSample.database "account" "vault"
      (some 1) 3 cursor
    let pulled := (pull InMemoryLocalRepository.operations ItemRecord.vaultId "vault" 3 replies
      mirrorSample.state).1
    (∃ after, Mirrored InMemoryLocalRepository.operations sampleTimeText .node
      mirrorSample.database "vault" after pulled
      (pull InMemoryLocalRepository.operations.logged ItemRecord.vaultId "vault" 3 replies
        (mirrorSample.state, [])).1.2) ∧
      InMemoryLocalRepository.operations.getItem pulled "vault" "item" = some
        { itemId := "item"
          vaultId := "vault"
          ciphertext := "b64:AAAA"
          envelopeVersion := Sync.envelopeVersionV1
          revision := 2
          deleted := true
          createdAt := "1970-01-01T00:00:00.000Z"
          updatedAt := "1970-01-01T00:00:00.007Z" } := by
  have ran : run mirrorSampleStep (.initial InMemoryLocalRepository.empty) mirrorSampleActions =
      some mirrorSample := run_reached (by decide +kernel)
  obtain ⟨after, -, -, converges⟩ := quiescent_pull_converges
    InMemoryLocalRepository.operations_lawful InMemoryLocalRepository.operations_recordLaws
    InMemoryLocalRepository.fresh_empty InMemoryLocalRepository.keyed_empty defaultBackoff ran
    "account" "vault" (some 1) 3
  have rows : (mirrorSample.database.vaultRows "vault").length ≤ 1 * 3 := by decide +kernel
  have mirrored := (converges (by decide) (by decide +kernel) 1 rfl).2 (by decide)
    ((List.length_filter_le _ _).trans rows)
  exact ⟨⟨after, mirrored⟩, by decide +kernel⟩

end Samples

end ZenPass.Web
