import ZenPass.Auth.Sessions

set_option autoImplicit false

namespace ZenPass.Auth

open Wire ReadCommitted
open Sync (Id Backend Timestamp)

structure Eligible (backend : Backend) (row : SessionRow) (now : Timestamp) : Prop where
  unrevoked : row.revokedAt = none
  unexpired : expired backend row.expiresAt now = false
  unbound : row.deviceId = none
  issuedVia : row.issuedVia = .opaqueLogin

theorem checkEligible_cases (backend : Backend) (name : String) (row : SessionRow)
    (now : Timestamp) :
    checkEligible backend name row now = .rollback .badRequest ∨
      (checkEligible backend name row now = .insertBearerDevice name row now ∧
        Eligible backend row now) := by
  unfold checkEligible
  split
  · exact .inl rfl
  · rename_i live
    split
    · exact .inl rfl
    · rename_i unbound
      split
      · exact .inl rfl
      · rename_i issuedVia
        rw [Bool.or_eq_true, not_or, Bool.not_eq_true, Bool.not_eq_true,
          Option.isSome_eq_false_iff, Option.isNone_iff_eq_none] at live
        rw [Bool.not_eq_true, Option.isSome_eq_false_iff, Option.isNone_iff_eq_none] at unbound
        exact .inr ⟨rfl, live.1, live.2, unbound, not_not.mp issuedVia⟩

def Task.sessionId (task : Task) : Id := task.auth.sessionId

def Phase.quiet : Phase → Bool
  | .createDevice _ _ | .bindSessionToDevice _ | .selectSessionForUpdate _ | .rotateSnapshot _
  | .rotateUpdate _ _ | .revokeSession | .updateDevice _ | .answered _ => true
  | _ => false

/-- The statement that leaves `server` in the given state, with what its guards have checked. -/
inductive Executed (server : Server) (t : TxId) (task : Task) : Server → Prop where
  -- Nothing is written.
  | passed (phase : Phase) (startedAt : Timestamp) (quiet : task.phase.quiet = true)
      (next : phase.quiet = true ∨ ∃ answer, phase = .rollback answer) :
      Executed server t task (server.resume t { task with startedAt, phase })
  | deviceCreated (name : String) (publicKey : Bytes) (uuid : Id)
      (phase : task.phase = .createDevice name publicKey)
      (fresh : unused server.devices uuid = true) :
      Executed server t task
        ({ server with
            devices := server.devices.put uuid
              ⟨task.auth.accountId, name, some publicKey, .legacyPublicKey, none⟩ }.resume t
          { task with phase := .bindSessionToDevice uuid })
  | sessionBound (deviceId : Id) (row : SessionRow)
      (phase : task.phase = .bindSessionToDevice deviceId)
      (available : (server.sessions task.sessionId).available t = true)
      (found : server.session task.sessionId = some row) :
      Executed server t task
        ({ server with
            sessions := server.sessions.put task.sessionId { row with deviceId := some deviceId }
            bindings := server.bindings ++ [(task.sessionId, deviceId)] }.resume t
          { task with phase := .answered (.device deviceId) })
  | sessionLocked (name : String) (row : SessionRow) (now : Timestamp)
      (phase : task.phase = .selectSessionForUpdate name)
      (available : (server.sessions task.sessionId).available t = true)
      (found : server.session task.sessionId = some row) :
      Executed server t task (server.holdSession t task task.sessionId row
        (checkEligible task.backend name row now))
  | bearerInserted (name : String) (session : SessionRow) (checkedAt : Timestamp) (uuid : Id)
      (phase : task.phase = .insertBearerDevice name session checkedAt)
      (fresh : unused server.devices uuid = true) :
      Executed server t task
        (server.holdDevice t task uuid ⟨session.accountId, name, none, .bearerSessionV1, none⟩
          (.bindLockedSession uuid session checkedAt))
  | lockedBound (deviceId : Id) (session : SessionRow) (checkedAt : Timestamp) (row : SessionRow)
      (phase : task.phase = .bindLockedSession deviceId session checkedAt)
      (available : (server.sessions task.sessionId).available t = true)
      (viewed : (server.sessions task.sessionId).view t = some row) :
      Executed server t task
        (server.holdSession t task task.sessionId { row with deviceId := some deviceId }
          (.commitEnrollment deviceId session checkedAt))
  | lockedGone (deviceId : Id) (session : SessionRow) (checkedAt : Timestamp)
      (phase : task.phase = .bindLockedSession deviceId session checkedAt)
      (viewed : (server.sessions task.sessionId).view t = none) :
      Executed server t task
        (server.resume t { task with phase := .commitEnrollment deviceId session checkedAt })
  | enrolled (deviceId : Id) (session : SessionRow) (checkedAt : Timestamp)
      (phase : task.phase = .commitEnrollment deviceId session checkedAt) :
      Executed server t task
        { server.commit t task (.device deviceId) with
          bindings := server.bindings ++ [(task.sessionId, deviceId)]
          enrollments :=
            server.enrollments ++ [⟨task.sessionId, deviceId, session, checkedAt⟩] }
  | rotated (ttl : Timestamp) (deviceId : Id) (row : SessionRow)
      (phase : task.phase = .rotateUpdate ttl deviceId)
      (available : (server.sessions task.sessionId).available t = true)
      (found : server.session task.sessionId = some row) (unrevoked : row.revokedAt = none)
      (unexpired : task.startedAt < row.expiresAt) (bound : row.deviceId = some deviceId) :
      Executed server t task
        (server.holdSession t task task.sessionId { row with revokedAt := some task.startedAt }
          (.insertSuccessor ttl deviceId row))
  | successorInserted (ttl : Timestamp) (deviceId : Id) (session : SessionRow) (now : Timestamp)
      (uuid : Id) (phase : task.phase = .insertSuccessor ttl deviceId session)
      (fresh : unused server.sessions uuid = true) :
      Executed server t task
        { server.holdSession t task uuid
            ⟨session.accountId, some deviceId, .refresh, now + ttl, none⟩
            (.commitRotation uuid deviceId session) with
          sessionIds := server.sessionIds ++ [uuid] }
  | rotationCommitted (successor deviceId : Id) (session : SessionRow)
      (phase : task.phase = .commitRotation successor deviceId session) :
      Executed server t task
        { server.commit t task (.session successor) with
          bindings := server.bindings ++ [(successor, deviceId)]
          successors := server.successors ++ [(task.sessionId, successor)] }
  | loggedOut (row : SessionRow) (now : Timestamp) (phase : task.phase = .revokeSession)
      (available : (server.sessions task.sessionId).available t = true)
      (found : server.session task.sessionId = some row) :
      Executed server t task
        ({ server with
            sessions := server.sessions.put task.sessionId
              { row with revokedAt := some now } }.resume t
          { task with phase := .answered .noContent })
  | deviceUpdated (deviceId : Id) (row : DeviceRow) (now : Timestamp)
      (phase : task.phase = .updateDevice deviceId)
      (available : (server.devices deviceId).available t = true)
      (found : server.device deviceId = some row) (owned : row.accountId = task.auth.accountId)
      (unrevoked : row.revokedAt = none) :
      Executed server t task
        (server.holdDevice t { task with startedAt := now } deviceId
          { row with revokedAt := some now } (.selectBoundSessions deviceId))
  | boundSelected (deviceId : Id) (targets : List Id)
      (phase : task.phase = .selectBoundSessions deviceId) :
      Executed server t task
        (server.resume t { task with phase := .updateBoundSessions deviceId targets })
  | targetPassed (deviceId target : Id) (rest : List Id)
      (phase : task.phase = .updateBoundSessions deviceId (target :: rest)) :
      Executed server t task
        (server.resume t { task with phase := .updateBoundSessions deviceId rest })
  | targetRevoked (deviceId target : Id) (rest : List Id) (row : SessionRow)
      (phase : task.phase = .updateBoundSessions deviceId (target :: rest))
      (available : (server.sessions target).available t = true)
      (found : server.session target = some row) (bound : row.deviceId = some deviceId)
      (unrevoked : row.revokedAt = none) :
      Executed server t task
        (server.holdSession t task target { row with revokedAt := some task.startedAt }
          (.updateBoundSessions deviceId rest))
  | targetsDone (deviceId : Id) (phase : task.phase = .updateBoundSessions deviceId []) :
      Executed server t task (server.resume t { task with phase := .commitRevocation })
  | revocationCommitted (phase : task.phase = .commitRevocation) :
      Executed server t task (server.commit t task .noContent)
  | rolledBack (answer : Answer) (phase : task.phase = .rollback answer) :
      Executed server t task (server.abort t task answer)

theorem statement_cases {server next : Server} {t : TxId} {task : Task} {now : Timestamp} {uuid : Id}
    (executed : statement server t task now uuid = some next) : Executed server t task next := by
  unfold statement at executed
  dsimp only at executed
  split at executed
  case h_1 name publicKey phase =>
    split at executed <;> cases executed
    exact .deviceCreated name publicKey uuid phase ‹_›
  case h_2 deviceId phase =>
    split at executed
    · rename_i available
      split at executed <;> cases executed
      · exact .passed _ task.startedAt (by rw [phase]; rfl) (.inl rfl)
      · rename_i row found
        exact .sessionBound deviceId row phase available found
    · cases executed
  case h_3 name phase =>
    split at executed
    · cases executed
      exact .passed _ task.startedAt (by rw [phase]; rfl) (.inr ⟨_, rfl⟩)
    · rename_i row found
      split at executed <;> cases executed
      exact .sessionLocked name row now phase ‹_› found
  case h_4 name session checkedAt phase =>
    split at executed <;> cases executed
    exact .bearerInserted name session checkedAt uuid phase ‹_›
  case h_5 deviceId session checkedAt phase =>
    split at executed
    · rename_i available
      split at executed <;> cases executed
      · exact .lockedGone deviceId session checkedAt phase ‹_›
      · exact .lockedBound deviceId session checkedAt _ phase available ‹_›
    · cases executed
  case h_6 deviceId session checkedAt phase =>
    cases executed
    exact .enrolled deviceId session checkedAt phase
  case h_7 ttl phase =>
    split at executed
    · cases executed
      exact .passed _ now (by rw [phase]; rfl) (.inr ⟨_, rfl⟩)
    · split at executed
      · cases executed
        exact .passed _ now (by rw [phase]; rfl) (.inr ⟨_, rfl⟩)
      · split at executed <;> cases executed
        · exact .passed _ now (by rw [phase]; rfl) (.inl rfl)
        · exact .passed _ now (by rw [phase]; rfl) (.inr ⟨_, rfl⟩)
  case h_8 ttl deviceId phase =>
    split at executed
    · rename_i available
      split at executed
      · cases executed
        exact .passed _ task.startedAt (by rw [phase]; rfl) (.inr ⟨_, rfl⟩)
      · rename_i row found
        split at executed <;> cases executed
        · rename_i matched
          simp only [rotates, Bool.and_eq_true, Option.isNone_iff_eq_none, decide_eq_true_eq,
            beq_iff_eq] at matched
          exact .rotated ttl deviceId row phase available found matched.1.1 matched.1.2 matched.2
        · exact .passed _ task.startedAt (by rw [phase]; rfl) (.inr ⟨_, rfl⟩)
    · cases executed
  case h_9 ttl deviceId session phase =>
    split at executed <;> cases executed
    exact .successorInserted ttl deviceId session now uuid phase ‹_›
  case h_10 successor deviceId session phase =>
    cases executed
    exact .rotationCommitted successor deviceId session phase
  case h_11 phase =>
    split at executed
    · rename_i available
      split at executed <;> cases executed
      · exact .passed _ task.startedAt (by rw [phase]; rfl) (.inl rfl)
      · rename_i row found
        exact .loggedOut row now phase available found
    · cases executed
  case h_12 deviceId phase =>
    split at executed
    · cases executed
      exact .passed _ now (by rw [phase]; rfl) (.inr ⟨_, rfl⟩)
    · rename_i row found
      split at executed
      · rename_i available
        split at executed <;> cases executed
        · rename_i matched
          rw [Option.isNone_iff_eq_none] at matched
          exact .deviceUpdated deviceId row now phase available found matched.1 matched.2
        · exact .passed _ now (by rw [phase]; rfl) (.inr ⟨_, rfl⟩)
      · cases executed
  case h_13 deviceId phase =>
    cases executed
    exact .boundSelected deviceId _ phase
  case h_14 deviceId phase =>
    cases executed
    exact .targetsDone deviceId phase
  case h_15 deviceId target rest phase =>
    split at executed
    · rename_i available
      split at executed
      · cases executed
        exact .targetPassed deviceId target rest phase
      · rename_i row found
        split at executed <;> cases executed
        · rename_i matched
          rw [Option.isNone_iff_eq_none] at matched
          exact .targetRevoked deviceId target rest row phase available found matched.1 matched.2
        · exact .targetPassed deviceId target rest phase
    · cases executed
  case h_16 phase =>
    cases executed
    exact .revocationCommitted phase
  case h_17 answer phase =>
    cases executed
    exact .rolledBack answer phase
  case h_18 => cases executed

inductive Stepped (server : Server) : Action → Server → Prop where
  | issued (sessionId accountId : Id) (expiresAt : Timestamp)
      (fresh : unused server.sessions sessionId = true) :
      Stepped server (.issueSession sessionId accountId expiresAt)
        { server with
          sessions := server.sessions.put sessionId ⟨accountId, none, .opaqueLogin, expiresAt, none⟩
          sessionIds := server.sessionIds ++ [sessionId] }
  | requested (t : TxId) (backend : Backend) (sessionId : Id) (now : Timestamp) (request : Request)
      (auth : AuthSession) (closed : server.tasks t = none)
      (resolved : resolveSession server backend sessionId now = some auth) :
      Stepped server (.request t backend sessionId now request)
        (server.resume t { backend, auth, phase := firstPhase auth request })
  | statement (t : TxId) (now : Timestamp) (uuid : Id) (task : Task) (next : Server)
      (opened : server.tasks t = some task) (executed : Executed server t task next) :
      Stepped server (.statement t now uuid) next
  | failed (t : TxId) (task : Task) (opened : server.tasks t = some task)
      (unanswered : ∀ answer, task.phase ≠ .answered answer) :
      Stepped server (.fail t) (server.abort t task .failed)

theorem step_cases {server next : Server} {action : Action}
    (stepped : step server action = some next) : Stepped server action next := by
  cases action with
  | issueSession sessionId accountId expiresAt =>
      simp only [step] at stepped
      split at stepped <;> cases stepped
      exact .issued sessionId accountId expiresAt ‹_›
  | request t backend sessionId now request =>
      simp only [step] at stepped
      split at stepped <;> cases stepped
      exact .requested t backend sessionId now request _ ‹_› ‹_›
  | statement t now uuid =>
      simp only [step] at stepped
      split at stepped
      · cases stepped
      · exact .statement t now uuid _ next ‹_› (statement_cases stepped)
  | fail t =>
      simp only [step] at stepped
      split at stepped
      · cases stepped
      · split at stepped <;> cases stepped
        exact .failed t _ ‹_› (by assumption)

end ZenPass.Auth
