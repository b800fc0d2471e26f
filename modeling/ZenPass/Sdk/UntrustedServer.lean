import ZenPass.Lib.Json
import ZenPass.Lib.Transition
import ZenPass.Sdk.SyncEngine

set_option autoImplicit false

-- A record is whatever stands in its place in a response. `keyOf` is the place that a repository
-- gives to a `vaultId` and an `itemId`, `none` where it throws.

namespace ZenPass.Sdk

open KeyedStore JavaScript Transition

inductive Refusal where
  | typeError
  | conflict (reason : ConflictReason)
deriving DecidableEq, Repr

structure JsonRepository (κ ν : Type) where
  items : InsertionMap κ (Json ν)
  cursors : InsertionMap Id (Json ν)
  queue : InsertionMap Id QueuedMutation

namespace JsonRepository

variable {κ ν : Type} [DecidableEq κ] [LinearOrder ν]

def empty : JsonRepository κ ν := ⟨.empty, .empty, .empty⟩

def recordFields : List String := ["ciphertext", "envelopeVersion", "deleted", "createdAt", "updatedAt"]

def sameRecordBytes (a b : Json ν) : Bool :=
  recordFields.all fun field => strictEq (a.get field) (b.get field)

variable (numerals : Numerals ν) (keyOf : Value ν → Value ν → Option κ)

def assertMonotonicPut (existing : Option (Json ν)) (incoming : Json ν) : Except Refusal Unit :=
  match existing with
  | none => .ok ()
  | some existing =>
      if existing.truthy numerals then
        match less numerals (incoming.get "revision") (existing.get "revision") with
        | none => .error .typeError
        | some true => .error (.conflict .revisionRegression)
        | some false =>
            if strictEq (incoming.get "revision") (existing.get "revision") &&
                !sameRecordBytes existing incoming then
              .error (.conflict .revisionMismatch)
            else .ok ()
      else .ok ()

/-- The place of a record; reading a property of `null` throws as well. -/
def placeOf (item : Json ν) : Option κ :=
  if isNullish (some item) then none else keyOf (item.get "vaultId") (item.get "itemId")

def putItem (repo : JsonRepository κ ν) (item : Json ν) : Except Refusal (JsonRepository κ ν) :=
  match placeOf keyOf item with
  | none => .error .typeError
  | some stored =>
      match assertMonotonicPut numerals (repo.items.get stored) item with
      | .error refusal => .error refusal
      | .ok () => .ok { repo with items := repo.items.set stored item }

def cursorText : Json ν → Option String
  | .string cursor => some cursor
  | _ => none

def operations : LocalRepository (JsonRepository κ ν) (Json ν) Refusal where
  getItem repo vaultId itemId :=
    (keyOf (some (.string vaultId)) (some (.string itemId))).bind repo.items.get
  putItem := putItem numerals keyOf
  listItems repo vaultId :=
    repo.items.values.filter fun item => strictEq (item.get "vaultId") (some (.string vaultId))
  getCursor repo vaultId := (repo.cursors.get vaultId).bind cursorText
  setCursor repo vaultId cursor := { repo with cursors := repo.cursors.set vaultId (.string cursor) }
  enqueueMutation repo entry := { repo with queue := repo.queue.set entry.mutationId entry }
  getQueuedMutation repo mutationId := repo.queue.get mutationId
  listQueuedMutations repo := repo.queue.values
  dequeueMutation repo mutationId := { repo with queue := repo.queue.delete mutationId }

end JsonRepository

def inMemoryKey {ν : Type} (numerals : Numerals ν) (vaultId itemId : Value ν) : Option String :=
  match text numerals vaultId, text numerals itemId with
  | some vaultId, some itemId => some (InMemoryLocalRepository.key vaultId itemId)
  | _, _ => none

inductive PullEnd (ν : Type) where
  | applied (pagesApplied itemsApplied : Nat) (cursor : Value ν)
  | error (itemsApplied : Nat)

structure PullState (ν : Type) where
  vaultId : Id
  pagesLeft : Nat
  cursor : Value ν
  pagesApplied : Nat := 0
  itemsApplied : Nat := 0

inductive PullPhase (ν : Type) where
  | idle (last : Option (PullEnd ν))
  | requesting (pull : PullState ν)
  | applying (pull : PullState ν) (page : Json ν) (changes : List (Json ν))

/-- `lastPage` is the last page of a vault all of whose records were applied; no step reads it. -/
structure Engine (κ ν : Type) where
  repo : JsonRepository κ ν
  phase : PullPhase ν := .idle none
  lastPage : Id → Option (Json ν) := fun _ => none

/-- `listChanges` brings the body of a 2xx response, `undefined` where it is empty, or throws. One
`apply` is one round of the loop over the changes, or what follows that loop. -/
inductive EngineAction (ν : Type) where
  | pull (vaultId : Id) (maxPages : Nat)
  | listChanges (result : Option (Value ν))
  | apply
  | pushOne (entry : QueuedMutation) (now : Nat) (accessToken : Option String)
      (reply : Reply (Json ν))

section Engine

variable {κ ν : Type} [DecidableEq κ] [LinearOrder ν]

def PullState.next (pull : PullState ν) : PullPhase ν :=
  if pull.pagesLeft = 0 then
    .idle (some (.applied pull.pagesApplied pull.itemsApplied pull.cursor))
  else .requesting pull

/-- What `for (const change of result.changes)` goes through: a string is iterable too. -/
def changesOf (result : Value ν) : Option (List (Json ν)) :=
  match member result "changes" with
  | some (some (.array items)) => some items
  | some (some (.string value)) => some (value.toList.map fun c => .string (String.singleton c))
  | _ => none

variable (numerals : Numerals ν) (keyOf : Value ν → Value ν → Option κ)

def Engine.failPull (engine : Engine κ ν) (pull : PullState ν) : Engine κ ν :=
  { engine with phase := .idle (some (.error pull.itemsApplied)) }

def Engine.applyChange (engine : Engine κ ν) (pull : PullState ν) (page change : Json ν)
    (rest : List (Json ν)) : Engine κ ν :=
  if strictEq ((member (some change) "vaultId").getD none) (some (.string pull.vaultId)) then
    match engine.repo.putItem numerals keyOf change with
    | .error _ => engine.failPull pull
    | .ok repo =>
        { engine with
          repo
          phase := .applying { pull with itemsApplied := pull.itemsApplied + 1 } page rest }
  else engine.failPull pull

def Engine.endPage (engine : Engine κ ν) (pull : PullState ν) (page : Json ν) : Engine κ ν :=
  let nextCursor := page.get "nextCursor"
  let cursor := coalesce nextCursor pull.cursor
  let stored := (coalesce cursor (some (.string ""))).getD (.string "")
  let madeProgress := ((changesOf (some page)).any fun changes => !changes.isEmpty) &&
    !strictEq nextCursor pull.cursor
  let pull := { pull with
    pagesLeft := pull.pagesLeft - 1, cursor, pagesApplied := pull.pagesApplied + 1 }
  { repo := { engine.repo with cursors := engine.repo.cursors.set pull.vaultId stored }
    phase :=
      if madeProgress then pull.next
      else .idle (some (.applied pull.pagesApplied pull.itemsApplied cursor))
    lastPage := Function.update engine.lastPage pull.vaultId (some page) }

def engineStep (backoff : BackoffOptions) (engine : Engine κ ν) :
    EngineAction ν → Option (Engine κ ν)
  | .pull vaultId maxPages =>
      match engine.phase with
      | .idle _ =>
          let cursor := coalesce (engine.repo.cursors.get vaultId) none
          some { engine with phase := PullState.next { vaultId, pagesLeft := maxPages, cursor } }
      | _ => none
  | .listChanges result =>
      match engine.phase with
      | .requesting pull =>
          match result with
          | none => some (engine.failPull pull)
          | some body =>
              match body, changesOf body with
              | some page, some changes => some { engine with phase := .applying pull page changes }
              | _, _ => some (engine.failPull pull)
      | _ => none
  | .apply =>
      match engine.phase with
      | .applying pull page [] => some (engine.endPage pull page)
      | .applying pull page (change :: rest) =>
          some (engine.applyChange numerals keyOf pull page change rest)
      | _ => none
  | .pushOne entry now accessToken reply =>
      some { engine with
        repo := (Sdk.pushOne (JsonRepository.operations numerals keyOf) backoff engine.repo entry
          now accessToken reply).1 }

end Engine

end ZenPass.Sdk
