import ZenPass.Sdk.Records
import ZenPass.Sync.Changes
import ZenPass.Web.Convergence
import ZenPass.Web.IndexedDbRepository

set_option autoImplicit false

namespace ZenPass.Web

open Sdk Transition

/-- `answers` and `pages` are what the server has answered to mutations and to requests for
changes, whoever has made them. -/
structure Mirror (σ : Type) where
  database : Sync.Tables
  state : σ
  answers : List (Mutation × Reply Body) := []
  pages : List (Id × Option String × ChangePage ItemRecord) := []

inductive MirrorAction where
  | mutate (accountId vaultId : Id) (mutation : Mutation) (now : Sync.Timestamp)
  | getChanges (accountId vaultId : Id) (cursor : Option String) (limit : Option Int)
  | pushOne (entry : QueuedMutation) (now : Nat) (accessToken : Option String) (reply : Reply Body)
  | pull (vaultId : Id) (maxPages : Nat) (replies : List (Option (ChangePage ItemRecord)))

def creates : Reply Body → Bool
  | .response status (.json _) => status == 201
  | _ => false

/-- Each reply is a page that the server has given for the cursor that the pull has then, up to
a request that fails. -/
def answered (pages : List (Id × Option String × ChangePage ItemRecord)) (vaultId : Id) :
    Option String → List (Option (ChangePage ItemRecord)) → Bool
  | cursor, some page :: rest =>
      decide ((vaultId, cursor, page) ∈ pages) &&
        answered pages vaultId (page.nextCursor.or cursor) rest
  | _, _ => true

section System

variable {σ : Type} (repo : LocalRepository σ ItemRecord RecordConflictError)
  (timeText : Sync.WireTime → String) (backend : Sync.Backend) (backoff : BackoffOptions)

def rowText (row : Sync.ItemRow) : ItemRecord := recordText timeText (Sync.toItemRecord backend row)

def pageOf (records : List Sync.ItemRecord) (nextCursor : String) : ChangePage ItemRecord where
  changes := records.map (recordText timeText)
  nextCursor := some nextCursor

def Mirror.initial (start : σ) : Mirror σ where
  database := .empty
  state := start

def mirrorStep (mirror : Mirror σ) : MirrorAction → Option (Mirror σ)
  | .mutate accountId vaultId mutation now =>
      let (database, outcome) :=
        mirror.database.postMutation backend accountId vaultId mutation now
      some { mirror with
        database
        answers := mirror.answers ++ [(mutation, replyOf timeText outcome)] }
  | .getChanges accountId vaultId cursor limit =>
      match mirror.database.getChanges backend accountId vaultId cursor limit with
      | none => some mirror
      | some (records, nextCursor) =>
          some { mirror with
            pages := mirror.pages ++ [(vaultId, cursor, pageOf timeText records nextCursor)] }
  | .pushOne entry now accessToken reply =>
      if creates reply = true ∧ (entry.mutation, reply) ∉ mirror.answers then none
      else
        some { mirror with
          state :=
            (Sdk.pushOne (bodyRepository repo) backoff mirror.state entry now accessToken reply).1 }
  | .pull vaultId maxPages replies =>
      if answered mirror.pages vaultId (repo.getCursor mirror.state vaultId) replies then
        some { mirror with
          state := (Sdk.pull repo ItemRecord.vaultId vaultId maxPages replies mirror.state).1 }
      else none

end System

section Follows

variable {σ : Type} (repo : LocalRepository σ ItemRecord RecordConflictError) (kept : σ → Prop)
  (timeText : Sync.WireTime → String) (backend : Sync.Backend)

/-- The repository has the rows of the vault up to the sequence. -/
def CaughtUp (store : Sync.Store) (state : σ) (vaultId : Id) (sequence : Nat) : Prop :=
  ∀ itemId row, store.rows (vaultId, itemId) = some row → row.sequence ≤ sequence →
    repo.getItem state vaultId itemId = some (rowText timeText backend row)

structure CursorOk (store : Sync.Store) (state : σ) (vaultId : Id) (cursor : String)
    (sequence : Nat) : Prop where
  encodes : cursor = Wire.encodeCursor sequence
  drawn : sequence ≤ store.vaultChangeSequence
  reached : Sync.Tables.Reached store vaultId sequence
  caughtUp : CaughtUp repo timeText backend store state vaultId sequence

/-- Every record has been the row's, and every cursor is one that the repository is caught up to. -/
structure Follows (store : Sync.Store) (state : σ) : Prop where
  kept : kept state
  records : ∀ vaultId itemId record, PlainId vaultId →
    repo.getItem state vaultId itemId = some record →
      ∃ wire, record = recordText timeText wire ∧ wire.vaultId = vaultId ∧ wire.itemId = itemId ∧
        Sync.Past store backend wire
  cursors : ∀ vaultId cursor, repo.getCursor state vaultId = some cursor →
    ∃ sequence, CursorOk repo timeText backend store state vaultId cursor sequence

variable {repo kept timeText backend} {store next : Sync.Store} {state : σ} {vaultId : Id}

theorem plain_of_valid {id : Id} (valid : Sync.isValidId id = true) : PlainId id := by
  unfold Sync.isValidId at valid
  intro member
  split at valid
  · cases valid
  · rename_i first rest chars
    rw [Bool.and_eq_true, Bool.and_eq_true, List.all_eq_true] at valid
    rw [chars, List.mem_cons] at member
    rcases member with rfl | member
    · exact absurd valid.1.1 (by decide)
    · exact absurd (valid.2 _ member) (by decide)

theorem CaughtUp.advance {sequence : Nat}
    (caughtUp : CaughtUp repo timeText backend store state vaultId sequence)
    (advances : Sync.Advances store next) (drawn : sequence ≤ store.vaultChangeSequence) :
    CaughtUp repo timeText backend next state vaultId sequence := by
  intro itemId row found below
  rcases advances.fresh _ row found with old | new
  · exact caughtUp itemId row old below
  · omega

theorem Follows.advance (follows : Follows repo kept timeText backend store state)
    (advances : Sync.Advances store next) : Follows repo kept timeText backend next state where
  kept := follows.kept
  records vaultId itemId record plain found := by
    obtain ⟨wire, same, vault, item, past⟩ := follows.records vaultId itemId record plain found
    exact ⟨wire, same, vault, item, past.advance advances⟩
  cursors vaultId cursor found := by
    obtain ⟨sequence, ok⟩ := follows.cursors vaultId cursor found
    have later := advances.sequence
    have drawn := ok.drawn
    exact ⟨sequence, ok.encodes, by omega, ok.reached.advance advances,
      ok.caughtUp.advance advances ok.drawn⟩

theorem le_of_assertMonotonicPut {existing incoming : ItemRecord}
    (accepted : (assertMonotonicPut (some existing) incoming).isOk = true) :
    existing.revision ≤ incoming.revision := by
  by_contra lower
  rw [not_le] at lower
  simp [assertMonotonicPut, lower, Except.isOk, Except.toBool] at accepted

def Holds (repo : LocalRepository σ ItemRecord RecordConflictError) (state : σ)
    (wire : Sync.ItemRecord) : Prop :=
  ∃ record, repo.getItem state wire.vaultId wire.itemId = some record ∧
    (wire.revision : Int) ≤ record.revision

structure Onward (repo : LocalRepository σ ItemRecord RecordConflictError)
    (timeText : Sync.WireTime → String) (backend : Sync.Backend) (store : Sync.Store)
    (before after : σ) : Prop where
  cursors : ∀ vaultId, repo.getCursor after vaultId = repo.getCursor before vaultId
  caughtUp : ∀ vaultId sequence, CaughtUp repo timeText backend store before vaultId sequence →
      CaughtUp repo timeText backend store after vaultId sequence
  holds : ∀ wire, PlainId wire.vaultId → Holds repo before wire → Holds repo after wire

theorem Onward.refl (state : σ) : Onward repo timeText backend store state state :=
  ⟨fun _ => rfl, fun _ _ => id, fun _ _ => id⟩

theorem Onward.trans {before middle after : σ}
    (first : Onward repo timeText backend store before middle)
    (second : Onward repo timeText backend store middle after) :
    Onward repo timeText backend store before after where
  cursors vaultId := (second.cursors vaultId).trans (first.cursors vaultId)
  caughtUp vaultId sequence caught :=
    second.caughtUp vaultId sequence (first.caughtUp vaultId sequence caught)
  holds wire plain there := second.holds wire plain (first.holds wire plain there)

variable {database : Sync.Tables}

theorem plain_of_past (sound : database.Sound backend) {wire : Sync.ItemRecord}
    (past : Sync.Past database.store backend wire) : PlainId wire.vaultId := by
  obtain ⟨row, found, -⟩ := past
  exact plain_of_valid (sound.valid _ row found)

theorem eq_of_past {wire : Sync.ItemRecord} (past : Sync.Past store backend wire) {itemId : Id}
    {row : Sync.ItemRow} (found : store.rows (vaultId, itemId) = some row)
    (vault : wire.vaultId = vaultId) (item : wire.itemId = itemId)
    (current : row.revision ≤ wire.revision) : wire = Sync.toItemRecord backend row := by
  obtain ⟨held, there, older, same⟩ := past
  rw [vault, item, found] at there
  cases there
  exact same (by omega)

/-- What is written stands under the record's key, in place of nothing that is newer. -/
structure Written (repo : LocalRepository σ ItemRecord RecordConflictError) (before after : σ)
    (record : ItemRecord) : Prop where
  here : repo.getItem after record.vaultId record.itemId = some record
  others : ∀ vaultId itemId, PlainId vaultId →
    ¬ (vaultId = record.vaultId ∧ itemId = record.itemId) →
      repo.getItem after vaultId itemId = repo.getItem before vaultId itemId
  newer : ∀ existing, repo.getItem before record.vaultId record.itemId = some existing →
    existing.revision ≤ record.revision

theorem caughtUp_zero (sound : database.Sound backend) :
    CaughtUp repo timeText backend database.store state vaultId 0 := by
  intro itemId row found below
  have positive := (sound.numbered.bounded _ row found).1
  omega

theorem Follows.cursorSequence (follows : Follows repo kept timeText backend database.store state)
    (sound : database.Sound backend) (vaultId : Id) :
    ∃ after, Sync.Tables.cursorSequence backend (repo.getCursor state vaultId) = some after ∧
      (repo.getCursor state vaultId).getD (Wire.encodeCursor 0) = Wire.encodeCursor after ∧
      CursorOk repo timeText backend database.store state vaultId (Wire.encodeCursor after) after := by
  cases found : repo.getCursor state vaultId with
  | none => exact ⟨0, rfl, rfl, rfl, Nat.zero_le _, .inl rfl, caughtUp_zero sound⟩
  | some cursor =>
      obtain ⟨after, ok⟩ := follows.cursors vaultId cursor found
      refine ⟨after, ?_, ok.encodes, { ok with encodes := rfl }⟩
      rw [ok.encodes]
      exact Wire.decodeCursor_encodeCursor _ after

theorem Follows.current (follows : Follows repo kept timeText backend database.store state)
    (sound : database.Sound backend) {itemId : Id} {row : Sync.ItemRow}
    (found : database.store.rows (vaultId, itemId) = some row)
    (holds : Holds repo state (Sync.toItemRecord backend row)) :
    repo.getItem state vaultId itemId = some (rowText timeText backend row) := by
  obtain ⟨record, there, current⟩ := holds
  have own := sound.numbered.keyed _ row found
  have vault : (Sync.toItemRecord backend row).vaultId = vaultId := (Prod.mk.inj own).1
  have item : (Sync.toItemRecord backend row).itemId = itemId := (Prod.mk.inj own).2
  rw [vault, item] at there
  obtain ⟨wire, rfl, wireVault, wireItem, past⟩ := follows.records vaultId itemId record
    (plain_of_valid (sound.valid _ row found)) there
  have same := eq_of_past past found wireVault wireItem (Int.ofNat_le.mp current)
  rw [there, same, rowText]

section Laws

variable (laws : repo.RecordLaws kept)
include laws

theorem written_of_put {record : ItemRecord} {after : σ} (plain : PlainId record.vaultId)
    (put : repo.putItem state record = .ok after) : Written repo state after record := by
  have stands (vaultId itemId : Id) (known : PlainId vaultId) :=
    laws.getItem_putItem state _ after put plain vaultId itemId known
  have accepted := (laws.putItem_iff state record).mp (by rw [put]; rfl)
  constructor
  · rw [stands _ _ plain, if_pos ⟨rfl, rfl⟩]
  · intro vaultId itemId known other
    rw [stands vaultId itemId known, if_neg other]
  · intro existing found
    rw [found] at accepted
    exact le_of_assertMonotonicPut accepted

theorem onward_put (sound : database.Sound backend) {wire : Sync.ItemRecord}
    (past : Sync.Past database.store backend wire) {after : σ}
    (put : repo.putItem state (recordText timeText wire) = .ok after) :
    Onward repo timeText backend database.store state after ∧ Holds repo after wire := by
  have written := written_of_put laws (plain_of_past sound past) put
  refine ⟨⟨fun vaultId => laws.getCursor_putItem state _ after put vaultId, ?_, ?_⟩,
    ⟨_, written.here, le_rfl⟩⟩
  · intro vaultId sequence caughtUp itemId row found below
    by_cases mine : vaultId = wire.vaultId ∧ itemId = wire.itemId
    · obtain ⟨rfl, rfl⟩ := mine
      have newer := written.newer _ (caughtUp _ row found below)
      have current : row.revision ≤ wire.revision := Int.ofNat_le.mp newer
      rw [rowText, ← eq_of_past past found rfl rfl current]
      exact written.here
    · rw [written.others vaultId itemId (plain_of_valid (sound.valid _ row found)) mine]
      exact caughtUp itemId row found below
  · rintro other plain ⟨record, found, later⟩
    by_cases mine : other.vaultId = wire.vaultId ∧ other.itemId = wire.itemId
    · obtain ⟨vault, item⟩ := mine
      rw [vault, item] at found
      have newer := written.newer record found
      refine ⟨_, by rw [vault, item]; exact written.here, ?_⟩
      exact le_trans later newer
    · exact ⟨record, by rw [written.others _ _ plain mine]; exact found, later⟩

theorem Follows.put (follows : Follows repo kept timeText backend database.store state)
    (sound : database.Sound backend) {wire : Sync.ItemRecord}
    (past : Sync.Past database.store backend wire) {after : σ}
    (put : repo.putItem state (recordText timeText wire) = .ok after) :
    Follows repo kept timeText backend database.store after := by
  have written := written_of_put laws (plain_of_past sound past) put
  have onward := (onward_put laws sound past put).1
  refine ⟨laws.kept_putItem state _ after put follows.kept, ?_, ?_⟩
  · intro vaultId itemId record plain found
    by_cases mine : vaultId = wire.vaultId ∧ itemId = wire.itemId
    · obtain ⟨rfl, rfl⟩ := mine
      cases written.here.symm.trans found
      exact ⟨wire, rfl, rfl, rfl, past⟩
    · rw [written.others vaultId itemId plain mine] at found
      exact follows.records vaultId itemId record plain found
  · intro vaultId cursor found
    rw [onward.cursors] at found
    obtain ⟨sequence, ok⟩ := follows.cursors vaultId cursor found
    exact ⟨sequence, { ok with caughtUp := onward.caughtUp vaultId sequence ok.caughtUp }⟩

theorem Follows.applyChanges (follows : Follows repo kept timeText backend database.store state)
    (sound : database.Sound backend) (vaultOf : ItemRecord → Id) (vaultId : Id)
    {records : List Sync.ItemRecord}
    (past : ∀ wire ∈ records, Sync.Past database.store backend wire) (itemsApplied : Nat) :
    let result := Sdk.applyChanges repo vaultOf vaultId state itemsApplied
      (records.map (recordText timeText))
    Follows repo kept timeText backend database.store result.1 ∧
      Onward repo timeText backend database.store state result.1 ∧
        (result.2.2 = none → ∀ wire ∈ records, Holds repo result.1 wire) := by
  induction records generalizing state itemsApplied with
  | nil => exact ⟨follows, Onward.refl state, fun _ _ member => by cases member⟩
  | cons wire rest ih =>
      have here := past wire List.mem_cons_self
      have later : ∀ wire ∈ rest, Sync.Past database.store backend wire :=
        fun other member => past other (List.mem_cons_of_mem _ member)
      simp only [List.map_cons, Sdk.applyChanges]
      split
      · exact ⟨follows, Onward.refl state, fun done => by cases done⟩
      · cases put : repo.putItem state (recordText timeText wire) with
        | error error => exact ⟨follows, Onward.refl state, fun done => by cases done⟩
        | ok after =>
            obtain ⟨step, there⟩ := onward_put laws sound here put
            obtain ⟨follows, onward, holds⟩ := ih (follows.put laws sound here put) later
              (itemsApplied + 1)
            refine ⟨follows, step.trans onward, fun done other member => ?_⟩
            rcases List.mem_cons.mp member with rfl | member
            · exact onward.holds _ (plain_of_past sound here) there
            · exact holds done other member

theorem Follows.setCursor (follows : Follows repo kept timeText backend store state)
    {cursor : String} {sequence : Nat}
    (ok : CursorOk repo timeText backend store state vaultId cursor sequence) :
    Follows repo kept timeText backend store (repo.setCursor state vaultId cursor) := by
  have same {other : Id} {number : Nat}
      (caughtUp : CaughtUp repo timeText backend store state other number) :
      CaughtUp repo timeText backend store (repo.setCursor state vaultId cursor) other number := by
    intro itemId row found below
    rw [laws.getItem_setCursor]
    exact caughtUp itemId row found below
  refine ⟨laws.kept_setCursor state vaultId cursor follows.kept, ?_, ?_⟩
  · intro other itemId record plain found
    rw [laws.getItem_setCursor] at found
    exact follows.records other itemId record plain found
  · intro other stored found
    rw [laws.getCursor_setCursor] at found
    split at found
    · rename_i mine
      cases found
      rw [mine]
      exact ⟨sequence, { ok with caughtUp := same ok.caughtUp }⟩
    · obtain ⟨number, known⟩ := follows.cursors other stored found
      exact ⟨number, { known with caughtUp := same known.caughtUp }⟩

theorem Follows.page (follows : Follows repo kept timeText backend database.store state)
    (sound : database.Sound backend) (vaultOf : ItemRecord → Id) {records : List Sync.ItemRecord}
    {nextCursor : String}
    (served : Sync.Tables.ServedPage database.store backend vaultId (repo.getCursor state vaultId)
      records nextCursor) (itemsApplied : Nat)
    (done : (Sdk.applyChanges repo vaultOf vaultId state itemsApplied
      (records.map (recordText timeText))).2.2 = none) :
    let next := (Sdk.applyChanges repo vaultOf vaultId state itemsApplied
      (records.map (recordText timeText))).1
    Follows repo kept timeText backend database.store next ∧
      ∃ sequence, CursorOk repo timeText backend database.store next vaultId nextCursor sequence := by
  obtain ⟨after, known, encodes, ok⟩ := follows.cursorSequence sound vaultId
  obtain ⟨onto, onward, holds⟩ := follows.applyChanges laws sound vaultOf vaultId
    (fun wire member => (served.past wire member).2) itemsApplied
  have earlier := onward.caughtUp vaultId after ok.caughtUp
  refine ⟨onto, ?_⟩
  rcases served.page with ⟨-, is⟩ | ⟨start, last, decoded, is, drawn, reached, covers⟩
  · rw [is, encodes]
    exact ⟨after, rfl, ok.drawn, ok.reached, earlier⟩
  · rw [known] at decoded
    cases decoded
    refine ⟨last, is, drawn, reached, ?_⟩
    intro itemId row found below
    by_cases old : row.sequence ≤ after
    · exact earlier itemId row found old
    · rw [not_le] at old
      exact onto.current sound found (holds done _ (covers itemId row found old below))

def PagesServed (timeText : Sync.WireTime → String) (backend : Sync.Backend) (store : Sync.Store)
    (pages : List (Id × Option String × ChangePage ItemRecord)) : Prop :=
  ∀ vaultId cursor page, (vaultId, cursor, page) ∈ pages →
    ∃ records nextCursor, page = pageOf timeText records nextCursor ∧
      Sync.Tables.ServedPage store backend vaultId cursor records nextCursor

theorem Follows.pullPages (follows : Follows repo kept timeText backend database.store state)
    (sound : database.Sound backend) (vaultOf : ItemRecord → Id)
    {given : List (Id × Option String × ChangePage ItemRecord)}
    (served : PagesServed timeText backend database.store given) {pages : Nat}
    {replies : List (Option (ChangePage ItemRecord))} {cursor : Option String}
    (here : repo.getCursor state vaultId = cursor)
    (honest : answered given vaultId cursor replies = true) (pagesApplied itemsApplied : Nat) :
    Follows repo kept timeText backend database.store
      (Sdk.pullPages repo vaultOf vaultId pages replies state cursor pagesApplied itemsApplied).1 := by
  induction pages generalizing replies state cursor pagesApplied itemsApplied with
  | zero => exact follows
  | succ pages ih =>
      match replies with
      | [] => exact follows
      | none :: _ => exact follows
      | some page :: rest =>
          rw [answered, Bool.and_eq_true, decide_eq_true_eq] at honest
          obtain ⟨records, nextCursor, is, fromServer⟩ := served _ _ _ honest.1
          have changes : page.changes = records.map (recordText timeText) := by rw [is, pageOf]
          have named : page.nextCursor = some nextCursor := by rw [is, pageOf]
          subst here
          have written := follows.applyChanges laws sound vaultOf vaultId
            (fun wire member => (fromServer.past wire member).2) itemsApplied
          have paged := follows.page laws sound vaultOf fromServer itemsApplied
          rw [← changes] at written paged
          simp only [Sdk.pullPages]
          generalize Sdk.applyChanges repo vaultOf vaultId state itemsApplied page.changes = applied
            at written paged
          obtain ⟨next, count, outcome⟩ := applied
          cases outcome with
          | some outcome => exact written.1
          | none =>
              obtain ⟨onto, sequence, ok⟩ := paged rfl
              have stored := onto.setCursor laws ok
              rw [named] at honest ⊢
              dsimp only at stored ⊢
              split
              · refine ih stored ?_ honest.2 _ _
                rw [laws.getCursor_setCursor, if_pos rfl]
                rfl
              · exact stored

theorem Follows.enqueue (follows : Follows repo kept timeText backend store state)
    (entry : QueuedMutation) :
    Follows repo kept timeText backend store (repo.enqueueMutation state entry) := by
  refine ⟨laws.kept_enqueue state entry follows.kept, ?_, ?_⟩
  · intro vaultId itemId record plain found
    rw [laws.getItem_enqueue] at found
    exact follows.records vaultId itemId record plain found
  · intro vaultId cursor found
    rw [laws.getCursor_enqueue] at found
    obtain ⟨sequence, ok⟩ := follows.cursors vaultId cursor found
    refine ⟨sequence, ok.encodes, ok.drawn, ok.reached, fun itemId row there below => ?_⟩
    rw [laws.getItem_enqueue]
    exact ok.caughtUp itemId row there below

theorem Follows.dequeue (follows : Follows repo kept timeText backend store state)
    (mutationId : Id) :
    Follows repo kept timeText backend store (repo.dequeueMutation state mutationId) := by
  refine ⟨laws.kept_dequeue state mutationId follows.kept, ?_, ?_⟩
  · intro vaultId itemId record plain found
    rw [laws.getItem_dequeue] at found
    exact follows.records vaultId itemId record plain found
  · intro vaultId cursor found
    rw [laws.getCursor_dequeue] at found
    obtain ⟨sequence, ok⟩ := follows.cursors vaultId cursor found
    refine ⟨sequence, ok.encodes, ok.drawn, ok.reached, fun itemId row there below => ?_⟩
    rw [laws.getItem_dequeue]
    exact ok.caughtUp itemId row there below

def GenuineReply (timeText : Sync.WireTime → String) (backend : Sync.Backend) (store : Sync.Store)
    (reply : Reply Body) : Prop :=
  creates reply = true → ∃ wire, reply = .response 201 (.json (.record (recordText timeText wire))) ∧
    Sync.Past store backend wire

theorem Follows.pushOne (follows : Follows repo kept timeText backend database.store state)
    (sound : database.Sound backend) (lawful : repo.Lawful) (backoff : BackoffOptions)
    (entry : QueuedMutation) (now : Nat) (accessToken : Option String) {reply : Reply Body}
    (genuine : GenuineReply timeText backend database.store reply) :
    Follows repo kept timeText backend database.store
      (Sdk.pushOne (bodyRepository repo) backoff state entry now accessToken reply).1 := by
  have cases' := pushOne_cases (bodyRepository_lawful lawful) backoff state entry now accessToken
    reply
  have syncing := follows.enqueue laws { entry with state := .syncing }
  generalize Sdk.pushOne (bodyRepository repo) backoff state entry now accessToken reply = result
    at cases'
  cases cases' with
  | stuck => exact syncing
  | conflict => exact syncing.enqueue laws _
  | httpError => exact syncing.enqueue laws _
  | networkFailure => exact syncing.enqueue laws _
  | created value next token put =>
      obtain ⟨wire, same, past⟩ := genuine rfl
      cases same
      -- the engine hands the record of the body to the repository
      cases stored : repo.putItem (repo.enqueueMutation state { entry with state := .syncing })
          (recordText timeText wire) with
      | error error =>
          simp only [bodyRepository, stored, Except.mapError] at put
          cases put
      | ok after =>
          simp only [bodyRepository, stored, Except.mapError] at put
          cases put
          exact (syncing.put laws sound past stored).dequeue laws _

end Laws

end Follows

section Run

variable {σ : Type} {repo : LocalRepository σ ItemRecord RecordConflictError} {kept : σ → Prop}
  {timeText : Sync.WireTime → String} {backend : Sync.Backend} {backoff : BackoffOptions}

theorem GenuineReply.advance {store next : Sync.Store} {reply : Reply Body}
    (genuine : GenuineReply timeText backend store reply) (advances : Sync.Advances store next) :
    GenuineReply timeText backend next reply := by
  intro created
  obtain ⟨wire, same, past⟩ := genuine created
  exact ⟨wire, same, past.advance advances⟩

theorem genuine_replyOf {store : Sync.Store} {outcome : Sync.ApplyOutcome}
    (genuine : Sync.Genuine store backend outcome) :
    GenuineReply timeText backend store (replyOf timeText outcome) := by
  intro created
  cases outcome with
  | response statusCode body =>
      rw [replyOf, creates, beq_iff_eq] at created
      subst created
      obtain ⟨wire, rfl, past⟩ := genuine body rfl
      exact ⟨wire, rfl, past⟩
  | _ => cases created

theorem PagesServed.advance {store next : Sync.Store}
    {pages : List (Id × Option String × ChangePage ItemRecord)}
    (served : PagesServed timeText backend store pages) (advances : Sync.Advances store next) :
    PagesServed timeText backend next pages := by
  intro vaultId cursor page member
  obtain ⟨records, nextCursor, same, fromServer⟩ := served vaultId cursor page member
  exact ⟨records, nextCursor, same, fromServer.advance advances⟩

structure Mirror.Sound (repo : LocalRepository σ ItemRecord RecordConflictError) (kept : σ → Prop)
    (timeText : Sync.WireTime → String) (backend : Sync.Backend) (mirror : Mirror σ) : Prop where
  database : mirror.database.Sound backend
  follows : Follows repo kept timeText backend mirror.database.store mirror.state
  answers : ∀ mutation reply, (mutation, reply) ∈ mirror.answers →
    GenuineReply timeText backend mirror.database.store reply
  pages : PagesServed timeText backend mirror.database.store mirror.pages

theorem Mirror.sound_initial {start : σ} (fresh : repo.Fresh start) (startKept : kept start) :
    (Mirror.initial start).Sound repo kept timeText backend where
  database := Sync.Tables.sound_empty
  follows :=
    { kept := startKept
      records := by
        intro vaultId itemId record plain found
        rw [initial, fresh.records] at found
        cases found
      cursors := by
        intro vaultId cursor found
        rw [initial, fresh.cursors] at found
        cases found }
  answers _ _ member := by cases member
  pages _ _ _ member := by cases member

variable {mirror next : Mirror σ}

theorem Mirror.Sound.mutate (sound : mirror.Sound repo kept timeText backend)
    (accountId vaultId : Id) (mutation : Mutation) (now : Sync.Timestamp) :
    let result := mirror.database.postMutation backend accountId vaultId mutation now
    Mirror.Sound repo kept timeText backend
      { mirror with
        database := result.1
        answers := mirror.answers ++ [(mutation, replyOf timeText result.2)] } := by
  obtain ⟨database, advances, genuine⟩ :=
    @Sync.Tables.Sound.postMutation _ _ accountId vaultId mutation now sound.database
  refine ⟨database, sound.follows.advance advances, ?_, sound.pages.advance advances⟩
  intro other reply member
  rcases List.mem_append.mp member with old | new
  · exact (sound.answers other reply old).advance advances
  · cases List.mem_singleton.mp new
    exact genuine_replyOf genuine

theorem Mirror.Sound.step (laws : repo.RecordLaws kept) (lawful : repo.Lawful)
    (sound : mirror.Sound repo kept timeText backend) {action : MirrorAction}
    (stepped : mirrorStep repo timeText backend backoff mirror action = some next) :
    next.Sound repo kept timeText backend := by
  cases action with
  | mutate accountId vaultId mutation now =>
      cases stepped
      exact sound.mutate accountId vaultId mutation now
  | getChanges accountId vaultId cursor limit =>
      rw [mirrorStep] at stepped
      cases served : mirror.database.getChanges backend accountId vaultId cursor limit with
      | none =>
          rw [served] at stepped
          cases stepped
          exact sound
      | some page =>
          rw [served] at stepped
          cases stepped
          refine { sound with pages := fun otherVault otherCursor other member => ?_ }
          rcases List.mem_append.mp member with old | new
          · exact sound.pages otherVault otherCursor other old
          · cases List.mem_singleton.mp new
            exact ⟨page.1, page.2, rfl, sound.database.getChanges served⟩
  | pushOne entry now accessToken reply =>
      rw [mirrorStep] at stepped
      split at stepped
      · cases stepped
      · rename_i allowed
        cases stepped
        refine { sound with follows := ?_ }
        apply sound.follows.pushOne laws sound.database lawful
        intro created
        have given : (entry.mutation, reply) ∈ mirror.answers := by
          by_contra missing
          exact allowed ⟨created, missing⟩
        exact sound.answers _ reply given created
  | pull vaultId maxPages replies =>
      rw [mirrorStep] at stepped
      split at stepped
      · rename_i honest
        cases stepped
        refine { sound with follows := ?_ }
        exact sound.follows.pullPages laws sound.database _ sound.pages rfl honest 0 0
      · cases stepped

theorem Mirror.Sound.run (laws : repo.RecordLaws kept) (lawful : repo.Lawful)
    (sound : mirror.Sound repo kept timeText backend) {actions : List MirrorAction}
    (ran : run (mirrorStep repo timeText backend backoff) mirror actions = some next) :
    next.Sound repo kept timeText backend := by
  refine run_preserves ?_ sound ran
  intro state action after sound stepped
  exact sound.step laws lawful stepped

end Run

end ZenPass.Web
