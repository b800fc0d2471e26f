import ZenPass.Sdk.SyncEngine
import ZenPass.Sync.Sequential
import ZenPass.Web.VaultTasks

set_option autoImplicit false

namespace ZenPass.Web

open Sdk Transition Wire

inductive Side where
  | current
  | attempted
deriving DecidableEq, Repr

def Conflict.deleted (conflict : Conflict) : Side → Bool
  | .current => conflict.current.deleted
  | .attempted => conflict.attempted.deleted

structure DecryptedCurrent (D : Type) where
  revision : Int
  data : D
  updatedAt : String
deriving DecidableEq, Repr

structure DecryptedAttempted (D : Type) where
  baseRevision : Int
  data : D
deriving DecidableEq, Repr

structure DecryptedConflict (D : Type) where
  mutationId : Id
  current : DecryptedCurrent D
  attempted : DecryptedAttempted D
deriving DecidableEq, Repr

section Decryption

variable {D : Type} (openPayload : Nat → AccountBundle → Id → String → Option D) (session : Nat)
  (bundle : AccountBundle)

def DecryptedConflict.data (shown : DecryptedConflict D) : Side → D
  | .current => shown.current.data
  | .attempted => shown.attempted.data

def Conflict.opened (conflict : Conflict) : Side → Option D
  | .current => openPayload session bundle conflict.current.itemId conflict.current.ciphertext
  | .attempted => openPayload session bundle conflict.attempted.itemId conflict.attempted.ciphertext

def decryptConflict (conflict : Conflict) : Option (DecryptedConflict D) :=
  match conflict.opened openPayload session bundle .current,
      conflict.opened openPayload session bundle .attempted with
  | some current, some attempted =>
      some
        { mutationId := conflict.mutationId
          current := ⟨conflict.current.revision, current, conflict.current.updatedAt⟩
          attempted := ⟨conflict.attempted.baseRevision, attempted⟩ }
  | _, _ => none

variable {openPayload session bundle}

theorem decryptConflict_data {conflict : Conflict} {shown : DecryptedConflict D}
    (decrypted : decryptConflict openPayload session bundle conflict = some shown) (side : Side) :
    conflict.opened openPayload session bundle side = some (shown.data side) := by
  unfold decryptConflict at decrypted
  split at decrypted
  · rename_i current attempted openedCurrent openedAttempted
    cases decrypted
    cases side with
    | current => exact openedCurrent
    | attempted => exact openedAttempted
  · cases decrypted

end Decryption

/-- `awaited` is the conflict whose decryption the last effect started and that has not settled.
After `index` or the conflicts change the next effect is due, which cancels the one before. -/
structure ConflictsView (D : Type) where
  conflicts : List Conflict
  index : Nat
  decrypted : Option (DecryptedConflict D)
  error : String
  effectDue : Bool
  awaited : Option Conflict
deriving DecidableEq, Repr

inductive ViewAction where
  | setConflicts (conflicts : List Conflict)
  | runEffect
  | settle (served : Bool)
  -- A click's `resolveConflict` has returned.
  | resolved
deriving DecidableEq, Repr

namespace ConflictsView

variable {D : Type}

def mounted (conflicts : List Conflict) : ConflictsView D where
  conflicts := conflicts
  index := 0
  decrypted := none
  error := ""
  effectDue := true
  awaited := none

def click (view : ConflictsView D) (side : Side) : Option (Call D) :=
  match view.decrypted, view.conflicts[view.index]? with
  | some shown, some conflict => some (.resolveConflict conflict (shown.data side))
  | _, _ => none

section Steps

variable (openPayload : Nat → AccountBundle → Id → String → Option D) (session : Nat)
  (bundle : AccountBundle)

def step (view : ConflictsView D) : ViewAction → Option (ConflictsView D)
  | .setConflicts conflicts => some { view with conflicts, effectDue := true }
  | .runEffect =>
      if view.effectDue then
        match view.conflicts[view.index]? with
        | none => some { view with effectDue := false, awaited := none, decrypted := none }
        | some conflict => some { view with effectDue := false, awaited := some conflict }
      else none
  | .settle served =>
      match view.awaited with
      | none => none
      | some conflict =>
          match if served then decryptConflict openPayload session bundle conflict else none with
          | some shown =>
              some { view with awaited := none, decrypted := some shown, error := "" }
          | none =>
              some
                { view with
                  awaited := none
                  decrypted := none
                  error := "Could not decrypt this conflict." }
  -- What is shown stays until the next decryption settles.
  | .resolved => some { view with index := view.index + 1, effectDue := true }

/-- Once the last effect has settled, the data on the screen is that of the conflict it counts. -/
def Settled (view : ConflictsView D) : Prop :=
  view.effectDue = false → match view.awaited with
    | some conflict => view.conflicts[view.index]? = some conflict
    | none => ∀ shown, view.decrypted = some shown →
        ∃ conflict, view.conflicts[view.index]? = some conflict ∧
          decryptConflict openPayload session bundle conflict = some shown

variable {openPayload session bundle}

theorem settled_step {view next : ConflictsView D} {action : ViewAction}
    (settled : view.Settled openPayload session bundle)
    (stepped : view.step openPayload session bundle action = some next) :
    next.Settled openPayload session bundle := by
  cases action with
  | setConflicts conflicts =>
      cases stepped
      intro notDue
      cases notDue
  | resolved =>
      cases stepped
      intro notDue
      cases notDue
  | runEffect =>
      simp only [step] at stepped
      split at stepped
      · split at stepped
        · cases stepped
          intro _ shown nothing
          cases nothing
        · rename_i conflict there
          cases stepped
          intro _
          exact there
      · cases stepped
  | settle served =>
      simp only [step] at stepped
      split at stepped
      · cases stepped
      · rename_i conflict awaited
        split at stepped
        · rename_i shown decrypted
          cases stepped
          intro notDue other same
          cases same
          -- Nothing has changed since the effect that started this decryption.
          have there := settled notDue
          rw [awaited] at there
          refine ⟨conflict, there, ?_⟩
          cases served with
          | true => exact decrypted
          | false => cases decrypted
        · cases stepped
          intro _ shown nothing
          cases nothing

theorem settled_run (conflicts : List Conflict) (actions : List ViewAction)
    {view : ConflictsView D}
    (ran : run (step openPayload session bundle) (mounted conflicts) actions = some view) :
    view.Settled openPayload session bundle := by
  have start : (mounted conflicts : ConflictsView D).Settled openPayload session bundle := by
    intro notDue
    cases notDue
  exact run_preserves (fun _ _ _ settled stepped => settled_step settled stepped) start ran

end Steps

end ConflictsView

section Resolution

variable {σ D : Type} (repo : LocalRepository σ ItemRecord RecordConflictError)
  (openPayload : Nat → AccountBundle → Id → String → Option D) (validate : D → List String)

/-- One choice on its way: the click, the sealed mutation that the vault session hands to the sync
engine, its entry in the queue, and the server's acceptance of the entry's mutation. Other calls
may have run in between, so nothing ties the two vault states together but the task. -/
structure Resolution (view : ConflictsView D) (side : Side) where
  shown : DecryptedConflict D
  conflict : Conflict
  vault : VaultSession D
  session : Nat
  bundle : AccountBundle
  task : Task D
  later : VaultSession D
  mutationId : Id
  envelope : Bytes
  progress : Progress D
  mutation : Mutation
  state : σ
  entry : QueuedMutation
  backend : Sync.Backend
  accountId : Id
  now : Sync.Timestamp
  store : Sync.Store
  next : Sync.Store
  body : Sync.ResponseBody
  decrypted : view.decrypted = some shown
  counted : view.conflicts[view.index]? = some conflict
  unlocked : vault.session = some session
  ofBundle : vault.bundle = some bundle
  called : ∃ call, view.click side = some call ∧ (vault.start validate call).task = some task
  resumed : later.resume task (.envelope mutationId envelope) = some progress
  handed : progress.mutation = some mutation
  -- The worker sealed the data that the task holds.
  sealed : ∀ generation data, task = .sealingResolution generation bundle conflict data →
    openPayload session bundle conflict.current.itemId (encodeB64 envelope) = some data
  queued : repo.getQueuedMutation (resolveConflict repo state conflict.mutationId mutation)
    mutation.mutationId = some entry
  fresh : store.outcomes (accountId, entry.mutation.mutationId) = none
  accepted : Sync.postMutation store backend accountId entry.mutation.vaultId entry.mutation now =
    (next, .response 201 body)

variable {repo openPayload validate} {view : ConflictsView D} {side : Side}

/-- The row has the data and the flag of the side that was chosen. -/
def Resolution.Faithful (resolution : Resolution repo openPayload validate view side) : Prop :=
  ∃ row, resolution.next.rows (resolution.bundle.vaultId, resolution.conflict.current.itemId) =
      some row ∧
    row.deleted = resolution.conflict.deleted side ∧
    ∃ data, resolution.conflict.opened openPayload resolution.session resolution.bundle side =
        some data ∧
      openPayload resolution.session resolution.bundle resolution.conflict.current.itemId
        (encodeB64 row.ciphertext) = some data

theorem Resolution.task_eq (resolution : Resolution repo openPayload validate view side) :
    resolution.task = .sealingResolution resolution.vault.generation resolution.bundle
      resolution.conflict (resolution.shown.data side) := by
  obtain ⟨call, clicked, started⟩ := resolution.called
  rw [ConflictsView.click, resolution.decrypted, resolution.counted] at clicked
  cases clicked
  simp only [VaultSession.start, resolution.unlocked, resolution.ofBundle] at started
  split at started
  · cases started
  · exact (Option.some.inj started).symm

theorem Resolution.mutation_eq (resolution : Resolution repo openPayload validate view side) :
    resolution.mutation =
      { mutationId := resolution.mutationId
        itemId := resolution.conflict.current.itemId
        vaultId := resolution.bundle.vaultId
        baseRevision := resolution.conflict.current.revision
        ciphertext := encodeB64 resolution.envelope
        envelopeVersion := Sync.envelopeVersionV1
        deleted := false } := by
  have resumed := resolution.resumed
  rw [resolution.task_eq] at resumed
  have handed := resolution.handed
  rw [← Option.some.inj resumed] at handed
  exact (Option.some.inj handed).symm

theorem Resolution.entry_mutation (lawful : repo.Lawful)
    (resolution : Resolution repo openPayload validate view side) :
    resolution.entry.mutation = resolution.mutation := by
  have queued := resolution.queued
  rw [resolveConflict, enqueueEdit, lawful.getQueued_enqueue] at queued
  rw [if_pos (by rfl)] at queued
  rw [← Option.some.inj queued]

theorem Resolution.row (lawful : repo.Lawful)
    (resolution : Resolution repo openPayload validate view side) :
    ∃ row, resolution.next.rows (resolution.bundle.vaultId, resolution.conflict.current.itemId) =
        some row ∧ row.deleted = false ∧ row.ciphertext = resolution.envelope := by
  have accepted := resolution.accepted
  have fresh := resolution.fresh
  have mutated : resolution.entry.mutation = _ :=
    (resolution.entry_mutation lawful).trans resolution.mutation_eq
  rw [mutated] at accepted fresh
  unfold Sync.postMutation at accepted
  split at accepted
  · exact absurd (congrArg Prod.snd accepted) (by simp)
  · rename_i tx checked
    obtain ⟨-, account, mutation⟩ := Sync.postItem_request checked
    have ciphertext : tx.ciphertext = resolution.envelope := by
      unfold Sync.postItem at checked
      split at checked
      · rw [decodeB64_encodeB64] at checked
        cases checked
        rfl
      · cases checked
    have key : tx.outcomeKey = (resolution.accountId, resolution.mutationId) := by
      rw [Sync.Tx.outcomeKey, account, mutation]
    obtain ⟨row, -, left⟩ := Sync.applyMutation_created (key ▸ fresh) accepted
    refine ⟨row, ?_, ?_, left.ciphertext.trans ciphertext⟩
    · rw [left.rows, Sync.Tx.itemKey, mutation, Function.update_self]
    · rw [left.deleted, mutation]

/-- An accepted choice is faithful exactly when the chosen side is alive and the data shown for it
was that of the conflict being resolved. -/
theorem choice_faithful (lawful : repo.Lawful)
    (resolution : Resolution repo openPayload validate view side) :
    resolution.Faithful ↔
      resolution.conflict.deleted side = false ∧
        resolution.conflict.opened openPayload resolution.session resolution.bundle side =
          some (resolution.shown.data side) := by
  obtain ⟨row, stored, alive, ciphertext⟩ := resolution.row lawful
  have reopened : openPayload resolution.session resolution.bundle
      resolution.conflict.current.itemId (encodeB64 row.ciphertext) =
        some (resolution.shown.data side) := by
    rw [ciphertext]
    exact resolution.sealed _ _ resolution.task_eq
  constructor
  · rintro ⟨found, there, flag, data, opened, same⟩
    rw [stored] at there
    cases there
    rw [reopened] at same
    cases same
    exact ⟨flag.symm.trans alive, opened⟩
  · rintro ⟨live, opened⟩
    exact ⟨row, stored, alive.trans live.symm, _, opened, reopened⟩

theorem settled_choice_faithful (lawful : repo.Lawful)
    (resolution : Resolution repo openPayload validate view side) (conflicts : List Conflict)
    (actions : List ViewAction)
    (ran : run (ConflictsView.step openPayload resolution.session resolution.bundle)
      (ConflictsView.mounted conflicts) actions = some view)
    (notDue : view.effectDue = false) (notAwaited : view.awaited = none) :
    resolution.Faithful ↔ resolution.conflict.deleted side = false := by
  rw [choice_faithful lawful resolution]
  have settled := ConflictsView.settled_run conflicts actions ran notDue
  rw [notAwaited] at settled
  obtain ⟨conflict, counted, decrypted⟩ := settled resolution.shown resolution.decrypted
  rw [resolution.counted] at counted
  rw [← Option.some.inj counted] at decrypted
  exact and_iff_left (decryptConflict_data decrypted side)

end Resolution

section Samples

def plainPayload (_ : Nat) (_ : AccountBundle) (_ : Id) (ciphertext : String) : Option Bytes :=
  decodeB64 true ciphertext

def noProblems (_ : Bytes) : List String := []

def sampleConflict (currentDeleted : Bool) : Conflict where
  mutationId := "m1"
  current := { sampleRecord 1 with deleted := currentDeleted }
  attempted := { (sampleEntry "m1").mutation with ciphertext := "b64:AQAA" }

def sampleShown : DecryptedConflict Bytes where
  mutationId := "m1"
  current := ⟨1, [0, 0, 0], "2026-01-01T00:00:00.000Z"⟩
  attempted := ⟨0, [1, 0, 0]⟩

def sampleActions : List ViewAction := [.runEffect, .settle true]

def sampleView (currentDeleted : Bool) : ConflictsView Bytes :=
  reached (ConflictsView.step plainPayload 7 ⟨"account", "vault"⟩)
    (.mounted [sampleConflict currentDeleted]) sampleActions

def storeWithItem (deleted : Bool) : Sync.Store where
  owners := fun vaultId => if vaultId = "vault" then some "account" else none
  rows := fun key =>
    if key = ("vault", "item") then
      some ⟨"vault", "item", [0, 0, 0], Sync.envelopeVersionV1, 1, deleted, 0, 0, 1⟩
    else none
  outcomes := fun _ => none
  vaultChangeSequence := 1

def unlockedVault : VaultSession Bytes :=
  { session := some 7, bundle := some ⟨"account", "vault"⟩ }

def resolvingMutation : Mutation where
  mutationId := "m2"
  itemId := "item"
  vaultId := "vault"
  baseRevision := 1
  ciphertext := "b64:AAAA"
  envelopeVersion := Sync.envelopeVersionV1
  deleted := false

def sampleResolution (currentDeleted : Bool) :
    Resolution InMemoryLocalRepository.operations plainPayload noProblems
      (sampleView currentDeleted) .current where
  shown := sampleShown
  conflict := sampleConflict currentDeleted
  vault := unlockedVault
  session := 7
  bundle := ⟨"account", "vault"⟩
  task := .sealingResolution 0 ⟨"account", "vault"⟩ (sampleConflict currentDeleted) [0, 0, 0]
  later := unlockedVault
  mutationId := "m2"
  envelope := [0, 0, 0]
  progress := _
  mutation := resolvingMutation
  state := InMemoryLocalRepository.empty
  entry := _
  backend := .node
  accountId := "account"
  now := 0
  store := storeWithItem currentDeleted
  next := (Sync.postMutation (storeWithItem currentDeleted) .node "account" "vault"
    resolvingMutation 0).1
  body := .record
    ⟨"item", "vault", "b64:AAAA", Sync.envelopeVersionV1, 2, false, .isoString 0, .isoString 0⟩
  decrypted := by cases currentDeleted <;> rfl
  counted := by cases currentDeleted <;> rfl
  unlocked := rfl
  ofBundle := rfl
  called := ⟨.resolveConflict (sampleConflict currentDeleted) [0, 0, 0],
    by cases currentDeleted <;> rfl, rfl⟩
  resumed := rfl
  handed := rfl
  sealed := by
    intro generation data same
    cases same
    rfl
  queued := rfl
  fresh := rfl
  accepted := by cases currentDeleted <;> rfl

theorem choice_faithful_live : (sampleResolution false).Faithful :=
  (choice_faithful InMemoryLocalRepository.operations_lawful (sampleResolution false)).mpr
    ⟨rfl, rfl⟩

/-- "Keep server version" on an item that the server has deleted stores it alive. -/
theorem kept_tombstone_lives_again :
    ¬ ∀ (view : ConflictsView Bytes) (side : Side)
      (resolution : Resolution InMemoryLocalRepository.operations plainPayload noProblems view side),
      resolution.Faithful := by
  intro always
  obtain ⟨row, stored, flag, -⟩ := always _ _ (sampleResolution true)
  obtain ⟨left, there, alive, -⟩ :=
    (sampleResolution true).row InMemoryLocalRepository.operations_lawful
  rw [there] at stored
  rw [← Option.some.inj stored, alive] at flag
  cases flag

end Samples

end ZenPass.Web
