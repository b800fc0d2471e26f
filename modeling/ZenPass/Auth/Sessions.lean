import ZenPass.Lib.ReadCommitted
import ZenPass.Lib.Transition
import ZenPass.Sync.Mutation

set_option autoImplicit false

-- The requests that change `sessions` and `devices`, one SQL statement at a time. Both backends
-- run the same statements. A statement that has to wait for a row is not enabled. The clock
-- readings and the random ids are arguments of the actions, and a session stands for its bearer
-- token.

namespace ZenPass.Auth

open Wire ReadCommitted
open Sync (Id Backend Timestamp)

abbrev TxId := Nat

inductive IssuedVia where
  | opaqueLogin
  | refresh
deriving DecidableEq, Repr

inductive EnrollmentMode where
  | legacyPublicKey
  | bearerSessionV1
deriving DecidableEq, Repr

structure SessionRow where
  accountId : Id
  deviceId : Option Id
  issuedVia : IssuedVia
  expiresAt : Timestamp
  revokedAt : Option Timestamp
deriving DecidableEq, Repr

structure DeviceRow where
  accountId : Id
  name : String
  publicKey : Option Bytes
  enrollmentMode : EnrollmentMode
  revokedAt : Option Timestamp
deriving DecidableEq, Repr

/-- Node compares milliseconds. -/
def expired : Backend → Timestamp → Timestamp → Bool
  | .node, expiresAt, now => decide (expiresAt / 1000 ≤ now / 1000)
  | .rust, expiresAt, now => decide (expiresAt ≤ now)

structure AuthSession where
  sessionId : Id
  accountId : Id
  deviceId : Option Id
deriving DecidableEq, Repr

inductive Answer where
  | device (deviceId : Id)
  | session (sessionId : Id)
  | noContent
  | badRequest
  | unauthorized
  | notFound
  | failed
deriving DecidableEq, Repr

inductive Request where
  | createDevice (name : String) (publicKey : Bytes)
  | enrollBearerSession (name : String)
  | refresh (ttl : Timestamp)
  | logout
  | revokeDevice (deviceId : Id)
deriving DecidableEq, Repr

inductive Phase where
  | createDevice (name : String) (publicKey : Bytes)
  | bindSessionToDevice (deviceId : Id)
  | selectSessionForUpdate (name : String)
  | insertBearerDevice (name : String) (session : SessionRow) (checkedAt : Timestamp)
  | bindLockedSession (deviceId : Id) (session : SessionRow) (checkedAt : Timestamp)
  | commitEnrollment (deviceId : Id) (session : SessionRow) (checkedAt : Timestamp)
  | rotateSnapshot (ttl : Timestamp)
  | rotateUpdate (ttl : Timestamp) (deviceId : Id)
  | insertSuccessor (ttl : Timestamp) (deviceId : Id) (session : SessionRow)
  | commitRotation (successor : Id) (deviceId : Id) (session : SessionRow)
  | revokeSession
  | updateDevice (deviceId : Id)
  | selectBoundSessions (deviceId : Id)
  | updateBoundSessions (deviceId : Id) (targets : List Id)
  | commitRevocation
  | rollback (answer : Answer)
  | answered (answer : Answer)
deriving DecidableEq, Repr

/-- `sessionRows` and `deviceRows` are the row versions that the transaction holds. `startedAt` is
`now()` inside the transaction. -/
structure Task where
  backend : Backend
  auth : AuthSession
  phase : Phase
  startedAt : Timestamp := 0
  sessionRows : Id → Option SessionRow := fun _ => none
  deviceRows : Id → Option DeviceRow := fun _ => none

structure Enrollment where
  sessionId : Id
  deviceId : Id
  session : SessionRow
  checkedAt : Timestamp
deriving DecidableEq, Repr

/-- The tables and the open requests. `sessionIds` lists the rows of `sessions`. What has been
committed is also kept as a history: `bindings` of a session to a device, `successors` of a session
by refreshes, and `enrollments` by bearer session. -/
structure Server where
  sessions : Table Id TxId SessionRow
  devices : Table Id TxId DeviceRow
  sessionIds : List Id
  tasks : TxId → Option Task
  bindings : List (Id × Id)
  successors : List (Id × Id)
  enrollments : List Enrollment

namespace Server

def initial : Server where
  sessions := fun _ => {}
  devices := fun _ => {}
  sessionIds := []
  tasks := fun _ => none
  bindings := []
  successors := []
  enrollments := []

def session (server : Server) (sessionId : Id) : Option SessionRow :=
  (server.sessions sessionId).committed

def device (server : Server) (deviceId : Id) : Option DeviceRow :=
  (server.devices deviceId).committed

def resume (server : Server) (t : TxId) (task : Task) : Server :=
  { server with tasks := Function.update server.tasks t (some task) }

def holdSession (server : Server) (t : TxId) (task : Task) (sessionId : Id) (row : SessionRow)
    (phase : Phase) : Server :=
  { server with sessions := server.sessions.hold sessionId t (some row) }.resume t
    { task with sessionRows := Function.update task.sessionRows sessionId (some row), phase }

def holdDevice (server : Server) (t : TxId) (task : Task) (deviceId : Id) (row : DeviceRow)
    (phase : Phase) : Server :=
  { server with devices := server.devices.hold deviceId t (some row) }.resume t
    { task with deviceRows := Function.update task.deviceRows deviceId (some row), phase }

def commit (server : Server) (t : TxId) (task : Task) (answer : Answer) : Server :=
  { server with
    sessions := server.sessions.commit t
    devices := server.devices.commit t }.resume t
    { task with sessionRows := fun _ => none, deviceRows := fun _ => none, phase := .answered answer }

def abort (server : Server) (t : TxId) (task : Task) (answer : Answer) : Server :=
  { server with
    sessions := server.sessions.abort t
    devices := server.devices.abort t }.resume t
    { task with sessionRows := fun _ => none, deviceRows := fun _ => none, phase := .answered answer }

end Server

def resolveSession (server : Server) (backend : Backend) (sessionId : Id) (now : Timestamp) :
    Option AuthSession :=
  match server.session sessionId with
  | none => none
  | some row =>
      if row.revokedAt.isSome then none
      else if row.deviceId.any fun deviceId =>
          (server.device deviceId).any fun device => device.revokedAt.isSome then none
      else if expired backend row.expiresAt now then none
      else some ⟨sessionId, row.accountId, row.deviceId⟩

def unused {K V : Type} (table : Table K TxId V) (key : K) : Bool :=
  (table key).committed.isNone && (table key).lock.isNone

def checkEligible (backend : Backend) (name : String) (row : SessionRow) (now : Timestamp) : Phase :=
  if row.revokedAt.isSome || expired backend row.expiresAt now then .rollback .badRequest
  else if row.deviceId.isSome then .rollback .badRequest
  else if row.issuedVia ≠ .opaqueLogin then .rollback .badRequest
  else .insertBearerDevice name row now

def rotates (row : SessionRow) (startedAt : Timestamp) : Bool :=
  row.revokedAt.isNone && decide (startedAt < row.expiresAt)

def statement (server : Server) (t : TxId) (task : Task) (now : Timestamp) (uuid : Id) :
    Option Server :=
  let sessionId := task.auth.sessionId
  let slot := server.sessions sessionId
  match task.phase with
  | .createDevice name publicKey =>
      if unused server.devices uuid then
        let row : DeviceRow := ⟨task.auth.accountId, name, some publicKey, .legacyPublicKey, none⟩
        some ({ server with devices := server.devices.put uuid row }.resume t
          { task with phase := .bindSessionToDevice uuid })
      else none
  | .bindSessionToDevice deviceId =>
      if slot.available t then
        let answered := { task with phase := .answered (.device deviceId) }
        match slot.committed with
        | none => some (server.resume t answered)
        | some row =>
            some ({ server with
                sessions := server.sessions.put sessionId { row with deviceId := some deviceId }
                bindings := server.bindings ++ [(sessionId, deviceId)] }.resume t answered)
      else none
  | .selectSessionForUpdate name =>
      match slot.committed with
      | none => some (server.resume t { task with phase := .rollback .badRequest })
      | some row =>
          if slot.available t then
            some (server.holdSession t task sessionId row (checkEligible task.backend name row now))
          else none
  | .insertBearerDevice name session checkedAt =>
      if unused server.devices uuid then
        some (server.holdDevice t task uuid ⟨session.accountId, name, none, .bearerSessionV1, none⟩
          (.bindLockedSession uuid session checkedAt))
      else none
  | .bindLockedSession deviceId session checkedAt =>
      if slot.available t then
        let phase := .commitEnrollment deviceId session checkedAt
        match slot.view t with
        | none => some (server.resume t { task with phase })
        | some row =>
            some (server.holdSession t task sessionId { row with deviceId := some deviceId } phase)
      else none
  | .commitEnrollment deviceId session checkedAt =>
      some { server.commit t task (.device deviceId) with
        bindings := server.bindings ++ [(sessionId, deviceId)]
        enrollments := server.enrollments ++ [⟨sessionId, deviceId, session, checkedAt⟩] }
  | .rotateSnapshot ttl =>
      -- The update's snapshot: the join with `devices` is not read again after a wait.
      let started := { task with startedAt := now }
      match slot.committed with
      | none => some (server.resume t { started with phase := .rollback .unauthorized })
      | some row =>
          match row.deviceId with
          | none => some (server.resume t { started with phase := .rollback .unauthorized })
          | some deviceId =>
              if rotates row now &&
                  (server.device deviceId).any fun device => device.revokedAt.isNone then
                some (server.resume t { started with phase := .rotateUpdate ttl deviceId })
              else some (server.resume t { started with phase := .rollback .unauthorized })
  | .rotateUpdate ttl deviceId =>
      if slot.available t then
        match slot.committed with
        | none => some (server.resume t { task with phase := .rollback .unauthorized })
        | some row =>
            if rotates row task.startedAt && row.deviceId == some deviceId then
              some (server.holdSession t task sessionId { row with revokedAt := some task.startedAt }
                (.insertSuccessor ttl deviceId row))
            else some (server.resume t { task with phase := .rollback .unauthorized })
      else none
  | .insertSuccessor ttl deviceId session =>
      if unused server.sessions uuid then
        let row : SessionRow := ⟨session.accountId, some deviceId, .refresh, now + ttl, none⟩
        some { server.holdSession t task uuid row (.commitRotation uuid deviceId session) with
          sessionIds := server.sessionIds ++ [uuid] }
      else none
  | .commitRotation successor deviceId _ =>
      some { server.commit t task (.session successor) with
        bindings := server.bindings ++ [(successor, deviceId)]
        successors := server.successors ++ [(sessionId, successor)] }
  | .revokeSession =>
      if slot.available t then
        let answered := { task with phase := .answered .noContent }
        match slot.committed with
        | none => some (server.resume t answered)
        | some row =>
            some ({ server with
                sessions := server.sessions.put sessionId { row with revokedAt := some now } }.resume
              t answered)
      else none
  | .updateDevice deviceId =>
      let started := { task with startedAt := now }
      match (server.devices deviceId).committed with
      | none => some (server.resume t { started with phase := .rollback .notFound })
      | some row =>
          if (server.devices deviceId).available t then
            if row.accountId = task.auth.accountId ∧ row.revokedAt.isNone then
              some (server.holdDevice t started deviceId { row with revokedAt := some now }
                (.selectBoundSessions deviceId))
            else some (server.resume t { started with phase := .rollback .notFound })
          else none
  | .selectBoundSessions deviceId =>
      -- The snapshot of the second update.
      let targets := server.sessionIds.filter fun target =>
        (server.session target).any fun row =>
          row.deviceId == some deviceId && row.revokedAt.isNone
      some (server.resume t { task with phase := .updateBoundSessions deviceId targets })
  | .updateBoundSessions _ [] => some (server.resume t { task with phase := .commitRevocation })
  | .updateBoundSessions deviceId (target :: rest) =>
      if (server.sessions target).available t then
        match server.session target with
        | none => some (server.resume t { task with phase := .updateBoundSessions deviceId rest })
        | some row =>
            if row.deviceId = some deviceId ∧ row.revokedAt.isNone then
              some (server.holdSession t task target { row with revokedAt := some task.startedAt }
                (.updateBoundSessions deviceId rest))
            else some (server.resume t { task with phase := .updateBoundSessions deviceId rest })
      else none
  | .commitRevocation => some (server.commit t task .noContent)
  | .rollback answer => some (server.abort t task answer)
  | .answered _ => none

def firstPhase (auth : AuthSession) : Request → Phase
  | .createDevice name publicKey => .createDevice name publicKey
  | .enrollBearerSession name => .selectSessionForUpdate name
  | .refresh ttl => if auth.deviceId.isNone then .answered .unauthorized else .rotateSnapshot ttl
  | .logout => .revokeSession
  | .revokeDevice deviceId => .updateDevice deviceId

inductive Action where
  -- A login that has got as far as `issueSession`.
  | issueSession (sessionId accountId : Id) (expiresAt : Timestamp)
  | request (t : TxId) (backend : Backend) (sessionId : Id) (now : Timestamp) (request : Request)
  | statement (t : TxId) (now : Timestamp) (uuid : Id)
  -- Any exception on the way.
  | fail (t : TxId)
deriving DecidableEq, Repr

def step (server : Server) : Action → Option Server
  | .issueSession sessionId accountId expiresAt =>
      if unused server.sessions sessionId then
        let row : SessionRow := ⟨accountId, none, .opaqueLogin, expiresAt, none⟩
        some { server with
          sessions := server.sessions.put sessionId row
          sessionIds := server.sessionIds ++ [sessionId] }
      else none
  | .request t backend sessionId now request =>
      match server.tasks t, resolveSession server backend sessionId now with
      | none, some auth => some (server.resume t { backend, auth, phase := firstPhase auth request })
      | _, _ => none
  | .statement t now uuid =>
      match server.tasks t with
      | none => none
      | some task => statement server t task now uuid
  | .fail t =>
      match server.tasks t with
      | none => none
      | some task =>
          match task.phase with
          | .answered _ => none
          | _ => some (server.abort t task .failed)

end ZenPass.Auth
