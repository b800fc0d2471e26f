import ZenPass.Auth.RowLocks

set_option autoImplicit false

namespace ZenPass.Auth

open Wire ReadCommitted
open Sync (Id Backend Timestamp)

inductive Commit (server : Server) : Action → Server → Prop where
  | nothing (action : Action) (next : Server) (session : next.session = server.session)
      (device : next.device = server.device) (bindings : next.bindings = server.bindings)
      (successors : next.successors = server.successors)
      (enrollments : next.enrollments = server.enrollments) : Commit server action next
  | issued (sessionId accountId : Id) (expiresAt : Timestamp) (next : Server)
      (absent : server.session sessionId = none)
      (session : next.session = Function.update server.session sessionId
        (some ⟨accountId, none, .opaqueLogin, expiresAt, none⟩))
      (device : next.device = server.device) (bindings : next.bindings = server.bindings)
      (successors : next.successors = server.successors)
      (enrollments : next.enrollments = server.enrollments) :
      Commit server (.issueSession sessionId accountId expiresAt) next
  | deviceCreated (action : Action) (next : Server) (deviceId : Id) (row : DeviceRow)
      (absent : server.device deviceId = none) (mode : row.enrollmentMode = .legacyPublicKey)
      (session : next.session = server.session)
      (device : next.device = Function.update server.device deviceId (some row))
      (bindings : next.bindings = server.bindings)
      (successors : next.successors = server.successors)
      (enrollments : next.enrollments = server.enrollments) : Commit server action next
  -- The legacy binding asks nothing of the session's row.
  | bound (t : TxId) (now : Timestamp) (uuid : Id) (task : Task) (next : Server) (deviceId : Id)
      (row : SessionRow) (opened : server.tasks t = some task)
      (phase : task.phase = .bindSessionToDevice deviceId)
      (found : server.session task.sessionId = some row)
      (session : next.session = Function.update server.session task.sessionId
        (some { row with deviceId := some deviceId }))
      (device : next.device = server.device)
      (bindings : next.bindings = server.bindings ++ [(task.sessionId, deviceId)])
      (successors : next.successors = server.successors)
      (enrollments : next.enrollments = server.enrollments) :
      Commit server (.statement t now uuid) next
  | loggedOut (action : Action) (next : Server) (sessionId : Id) (row : SessionRow)
      (time : Timestamp) (found : server.session sessionId = some row)
      (session : next.session = Function.update server.session sessionId
        (some { row with revokedAt := some time }))
      (device : next.device = server.device) (bindings : next.bindings = server.bindings)
      (successors : next.successors = server.successors)
      (enrollments : next.enrollments = server.enrollments) : Commit server action next
  | enrolled (t : TxId) (now : Timestamp) (uuid : Id) (task : Task) (next : Server) (deviceId : Id)
      (row : SessionRow) (checkedAt : Timestamp) (name : String)
      (opened : server.tasks t = some task)
      (phase : task.phase = .commitEnrollment deviceId row checkedAt)
      (eligible : Eligible task.backend row checkedAt)
      (found : server.session task.sessionId = some row) (absent : server.device deviceId = none)
      (session : next.session = Function.update server.session task.sessionId
        (some { row with deviceId := some deviceId }))
      (device : next.device = Function.update server.device deviceId
        (some ⟨row.accountId, name, none, .bearerSessionV1, none⟩))
      (bindings : next.bindings = server.bindings ++ [(task.sessionId, deviceId)])
      (successors : next.successors = server.successors)
      (enrollments : next.enrollments =
        server.enrollments ++ [⟨task.sessionId, deviceId, row, checkedAt⟩]) :
      Commit server (.statement t now uuid) next
  | rotated (t : TxId) (now : Timestamp) (uuid : Id) (task : Task) (next : Server)
      (successor deviceId : Id) (row : SessionRow) (expiresAt : Timestamp)
      (opened : server.tasks t = some task)
      (phase : task.phase = .commitRotation successor deviceId row)
      (unrevoked : row.revokedAt = none) (bound : row.deviceId = some deviceId)
      (found : server.session task.sessionId = some row)
      (other : successor ≠ task.sessionId) (absent : server.session successor = none)
      (session : next.session =
        Function.update
          (Function.update server.session task.sessionId (some (task.revoked row))) successor
          (some ⟨row.accountId, some deviceId, .refresh, expiresAt, none⟩))
      (device : next.device = server.device)
      (bindings : next.bindings = server.bindings ++ [(successor, deviceId)])
      (successors : next.successors = server.successors ++ [(task.sessionId, successor)])
      (enrollments : next.enrollments = server.enrollments) :
      Commit server (.statement t now uuid) next
  | revoked (action : Action) (next : Server)
      (session : ∀ k, next.session k = server.session k ∨
        ∃ row time, server.session k = some row ∧ row.revokedAt = none ∧
          next.session k = some { row with revokedAt := some time })
      (device : ∀ k, next.device k = server.device k ∨
        ∃ row time, server.device k = some row ∧
          next.device k = some { row with revokedAt := some time })
      (bindings : next.bindings = server.bindings)
      (successors : next.successors = server.successors)
      (enrollments : next.enrollments = server.enrollments) : Commit server action next

section

variable {server next : Server} {t : TxId} {task : Task}

theorem putSession_session (sessionId : Id) (row : SessionRow) :
    Server.session { server with sessions := server.sessions.put sessionId row } =
      Function.update server.session sessionId (some row) := by
  funext k
  refine (Table.put_committed _ _ _ _).trans ?_
  by_cases same : k = sessionId
  · subst same
    simp
  · simp [same, Server.session]

theorem putDevice_device (deviceId : Id) (row : DeviceRow) :
    Server.device { server with devices := server.devices.put deviceId row } =
      Function.update server.device deviceId (some row) := by
  funext k
  refine (Table.put_committed _ _ _ _).trans ?_
  by_cases same : k = deviceId
  · subst same
    simp
  · simp [same, Server.device]

theorem or_only {V : Type} (rows : Id → Option V) (key : Id) (row : V) :
    (fun k => (only key row k).or (rows k)) = Function.update rows key (some row) := by
  funext k
  by_cases same : k = key
  · subst same
    simp
  · simp [only, same]

theorem executed_commit (consistent : Consistent server) (now : Timestamp) (uuid : Id)
    (opened : server.tasks t = some task) (executed : Executed server t task next) :
    Commit server (.statement t now uuid) next := by
  have ok := consistent.tasks t task opened
  cases executed with
  | passed => exact .nothing _ _ rfl rfl rfl rfl rfl
  | deviceCreated name publicKey id phase fresh =>
      exact .deviceCreated _ _ id _ (unused_iff.mp fresh).1 rfl rfl (putDevice_device _ _) rfl rfl rfl
  | sessionBound deviceId row phase available found =>
      exact .bound t now uuid task _ deviceId row opened phase found (putSession_session _ _) rfl rfl
        rfl rfl
  | sessionLocked => exact .nothing _ _ (holdSession_session _ _ _) rfl rfl rfl rfl
  | bearerInserted => exact .nothing _ _ rfl (holdDevice_device _ _ _) rfl rfl rfl
  | lockedBound => exact .nothing _ _ (holdSession_session _ _ _) rfl rfl rfl rfl
  | lockedGone => exact .nothing _ _ rfl rfl rfl rfl rfl
  | enrolled deviceId session checkedAt phase =>
      rw [Task.Ok, phase] at ok
      obtain ⟨enrolling, held, ⟨name, rows⟩, absent⟩ := ok
      refine .enrolled t now uuid task _ deviceId session checkedAt name opened phase
        enrolling.eligible enrolling.found absent ?_ ?_ rfl rfl rfl
      · rw [← or_only, ← held]
        funext k
        exact commit_session consistent opened (.device deviceId) k
      · rw [← or_only, ← rows]
        funext k
        exact commit_device consistent opened (.device deviceId) k
  | rotated => exact .nothing _ _ (holdSession_session _ _ _) rfl rfl rfl rfl
  | successorInserted =>
      exact .nothing _ _ (funext fun _ => Table.hold_committed _ _ _ _ _) rfl rfl rfl rfl
  | rotationCommitted successor deviceId session phase =>
      rw [Task.Ok, phase] at ok
      obtain ⟨rotating, ⟨expiresAt, held⟩, other, absent, noDevice⟩ := ok
      refine .rotated t now uuid task _ successor deviceId session expiresAt opened phase
        rotating.unrevoked rotating.bound rotating.found other absent ?_ ?_ rfl rfl rfl
      · funext k
        refine (commit_session consistent opened (.session successor) k).trans ?_
        rw [held]
        by_cases same : k = successor
        · subst same
          simp
        · rw [Function.update_of_ne same, Function.update_of_ne same]
          exact congrFun (or_only server.session _ _) k
      · funext k
        refine (commit_device consistent opened (.session successor) k).trans ?_
        rw [noDevice]
        rfl
  | loggedOut row time phase available found =>
      exact .loggedOut _ _ task.sessionId row time found (putSession_session _ _) rfl rfl rfl rfl
  | deviceUpdated => exact .nothing _ _ rfl (holdDevice_device _ _ _) rfl rfl rfl
  | boundSelected => exact .nothing _ _ rfl rfl rfl rfl rfl
  | targetPassed => exact .nothing _ _ rfl rfl rfl rfl rfl
  | targetRevoked => exact .nothing _ _ (holdSession_session _ _ _) rfl rfl rfl rfl
  | targetsDone => exact .nothing _ _ rfl rfl rfl rfl rfl
  | revocationCommitted phase =>
      rw [Task.Ok, phase] at ok
      refine .revoked _ _ ?_ ?_ rfl rfl rfl
      · intro k
        rw [commit_session consistent opened]
        cases held : task.sessionRows k with
        | none => exact .inl rfl
        | some row =>
            obtain ⟨current, found, unrevoked, rfl⟩ := ok.sessions k row held
            exact .inr ⟨current, task.startedAt, found, unrevoked, rfl⟩
      · intro k
        rw [commit_device consistent opened]
        cases held : task.deviceRows k with
        | none => exact .inl rfl
        | some row =>
            obtain ⟨current, found, rfl⟩ := ok.devices k row held
            exact .inr ⟨current, task.startedAt, found, rfl⟩
  | rolledBack answer phase =>
      exact .nothing _ _ (funext (abort_session _)) (funext (abort_device _)) rfl rfl rfl

theorem step_commit {action : Action} (consistent : Consistent server)
    (stepped : step server action = some next) : Commit server action next := by
  cases step_cases stepped with
  | issued sessionId accountId expiresAt fresh =>
      exact .issued sessionId accountId expiresAt _ (unused_iff.mp fresh).1 (putSession_session _ _)
        rfl rfl rfl rfl
  | requested => exact .nothing _ _ rfl rfl rfl rfl rfl
  | statement t now uuid task next opened executed =>
      exact executed_commit consistent now uuid opened executed
  | failed t task opened unanswered =>
      exact .nothing _ _ (funext (abort_session _)) (funext (abort_device _)) rfl rfl rfl

/-- What no request changes in a session's row: a binding may be replaced but not removed. -/
structure Keeps (row after : SessionRow) : Prop where
  revoked : row.revokedAt.isSome = true → after.revokedAt.isSome = true
  bound : row.deviceId.isSome = true → after.deviceId.isSome = true

theorem Commit.keeps {action : Action} (commit : Commit server action next) {k : Id}
    {row : SessionRow} (found : server.session k = some row) :
    ∃ after, next.session k = some after ∧ Keeps row after := by
  have same : Keeps row row := ⟨id, id⟩
  cases commit with
  | nothing _ _ session => exact ⟨row, by rw [session, found], same⟩
  | deviceCreated _ _ _ _ _ _ session => exact ⟨row, by rw [session, found], same⟩
  | issued sessionId _ _ _ absent session =>
      have other : k ≠ sessionId := by
        rintro rfl
        rw [absent] at found
        cases found
      exact ⟨row, by rw [session, Function.update_of_ne other, found], same⟩
  | bound t now uuid task _ deviceId held opened phase there session =>
      by_cases here : k = task.sessionId
      · subst here
        rw [there] at found
        cases found
        exact ⟨_, (congrFun session _).trans (Function.update_self _ _ _), id, fun _ => rfl⟩
      · exact ⟨row, by rw [session, Function.update_of_ne here, found], same⟩
  | loggedOut _ _ sessionId held time there session =>
      by_cases here : k = sessionId
      · subst here
        rw [there] at found
        cases found
        exact ⟨_, (congrFun session _).trans (Function.update_self _ _ _), fun _ => rfl, id⟩
      · exact ⟨row, by rw [session, Function.update_of_ne here, found], same⟩
  | enrolled t now uuid task _ deviceId held checkedAt name opened phase eligible there absent session =>
      by_cases here : k = task.sessionId
      · subst here
        rw [there] at found
        cases found
        exact ⟨_, (congrFun session _).trans (Function.update_self _ _ _), id, fun _ => rfl⟩
      · exact ⟨row, by rw [session, Function.update_of_ne here, found], same⟩
  | rotated t now uuid task _ successor deviceId held expiresAt opened phase unrevoked bound there other
      absent session =>
      have notNew : k ≠ successor := by
        rintro rfl
        rw [absent] at found
        cases found
      by_cases here : k = task.sessionId
      · subst here
        rw [there] at found
        cases found
        refine ⟨task.revoked row, ?_, fun _ => rfl, id⟩
        rw [session, Function.update_of_ne notNew, Function.update_self]
      · exact ⟨row, by rw [session, Function.update_of_ne notNew, Function.update_of_ne here, found],
          same⟩
  | revoked _ _ session =>
      rcases session k with unchanged | ⟨held, time, there, -, revoked⟩
      · exact ⟨row, by rw [unchanged, found], same⟩
      · rw [there] at found
        cases found
        exact ⟨_, revoked, fun _ => rfl, id⟩

theorem Commit.keepsDevice {action : Action} (commit : Commit server action next) {k : Id}
    {row : DeviceRow} (found : server.device k = some row) :
    ∃ after, next.device k = some after ∧ after.accountId = row.accountId ∧
      after.enrollmentMode = row.enrollmentMode ∧
      (row.revokedAt.isSome = true → after.revokedAt.isSome = true) := by
  cases commit with
  | nothing _ _ _ device => exact ⟨row, by rw [device, found], rfl, rfl, id⟩
  | issued _ _ _ _ _ _ device => exact ⟨row, by rw [device, found], rfl, rfl, id⟩
  | bound _ _ _ _ _ _ _ _ _ _ _ device => exact ⟨row, by rw [device, found], rfl, rfl, id⟩
  | loggedOut _ _ _ _ _ _ _ device => exact ⟨row, by rw [device, found], rfl, rfl, id⟩
  | rotated _ _ _ _ _ _ _ _ _ _ _ _ _ _ _ _ _ device =>
      exact ⟨row, by rw [device, found], rfl, rfl, id⟩
  | deviceCreated _ _ deviceId _ absent _ _ device =>
      have other : k ≠ deviceId := by
        rintro rfl
        rw [absent] at found
        cases found
      exact ⟨row, by rw [device, Function.update_of_ne other, found], rfl, rfl, id⟩
  | enrolled _ _ _ _ _ deviceId _ _ _ _ _ _ _ absent _ device =>
      have other : k ≠ deviceId := by
        rintro rfl
        rw [absent] at found
        cases found
      exact ⟨row, by rw [device, Function.update_of_ne other, found], rfl, rfl, id⟩
  | revoked _ _ _ device =>
      rcases device k with unchanged | ⟨held, time, there, revoked⟩
      · exact ⟨row, by rw [unchanged, found], rfl, rfl, id⟩
      · rw [there] at found
        cases found
        exact ⟨_, revoked, rfl, rfl, fun _ => rfl⟩

end

end ZenPass.Auth
