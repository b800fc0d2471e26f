import ZenPass.Auth.Statements

set_option autoImplicit false

namespace ZenPass.Auth

open Wire ReadCommitted
open Sync (Id Backend Timestamp)

def only {V : Type} (key : Id) (row : V) : Id → Option V :=
  Function.update (fun _ => none) key (some row)

theorem only_eq_some {V : Type} {key k : Id} {row found : V} :
    only key row k = some found ↔ k = key ∧ row = found := by
  unfold only
  by_cases same : k = key
  · subst same
    simp
  · simp [same]

@[simp] theorem only_self {V : Type} (key : Id) (row : V) : only key row key = some row := by
  simp [only]

theorem only_update {V : Type} (key : Id) (row next : V) :
    Function.update (only key row) key (some next) = only key next := by
  simp [only]

structure Enrolling (server : Server) (task : Task) (session : SessionRow) (checkedAt : Timestamp) :
    Prop where
  eligible : Eligible task.backend session checkedAt
  found : server.session task.sessionId = some session

structure Rotating (server : Server) (task : Task) (deviceId : Id) (session : SessionRow) :
    Prop where
  unrevoked : session.revokedAt = none
  unexpired : task.startedAt < session.expiresAt
  bound : session.deviceId = some deviceId
  found : server.session task.sessionId = some session

def Task.revoked (task : Task) (session : SessionRow) : SessionRow :=
  { session with revokedAt := some task.startedAt }

structure Revoking (server : Server) (task : Task) : Prop where
  sessions : ∀ k row, task.sessionRows k = some row →
    ∃ current, server.session k = some current ∧ current.revokedAt = none ∧
      row = task.revoked current
  devices : ∀ k row, task.deviceRows k = some row →
    ∃ current, server.device k = some current ∧
      row = { current with revokedAt := some task.startedAt }

structure Unpublished (server : Server) (task : Task) (session : SessionRow) (deviceId : Id) :
    Prop where
  rows : ∃ name, task.deviceRows =
    only deviceId ⟨session.accountId, name, none, .bearerSessionV1, none⟩
  absent : server.device deviceId = none

def Task.Ok (server : Server) (task : Task) : Prop :=
  match task.phase with
  | .insertBearerDevice _ session checkedAt =>
      Enrolling server task session checkedAt ∧
        task.sessionRows = only task.sessionId session ∧ task.deviceRows = fun _ => none
  | .bindLockedSession deviceId session checkedAt =>
      Enrolling server task session checkedAt ∧
        task.sessionRows = only task.sessionId session ∧ Unpublished server task session deviceId
  | .commitEnrollment deviceId session checkedAt =>
      Enrolling server task session checkedAt ∧
        task.sessionRows = only task.sessionId { session with deviceId := some deviceId } ∧
          Unpublished server task session deviceId
  | .insertSuccessor _ deviceId session =>
      Rotating server task deviceId session ∧
        task.sessionRows = only task.sessionId (task.revoked session) ∧
          task.deviceRows = fun _ => none
  | .commitRotation successor deviceId session =>
      Rotating server task deviceId session ∧
        (∃ expiresAt, task.sessionRows =
          Function.update (only task.sessionId (task.revoked session)) successor
            (some ⟨session.accountId, some deviceId, .refresh, expiresAt, none⟩)) ∧
        successor ≠ task.sessionId ∧ server.session successor = none ∧
          task.deviceRows = fun _ => none
  | .selectBoundSessions _ | .updateBoundSessions _ _ | .commitRevocation => Revoking server task
  | .rollback _ => True
  | _ => (task.sessionRows = fun _ => none) ∧ task.deviceRows = fun _ => none

theorem Task.ok_quiet {server : Server} {task : Task} (quiet : task.phase.quiet = true) :
    task.Ok server ↔ (task.sessionRows = fun _ => none) ∧ task.deviceRows = fun _ => none := by
  unfold Ok
  cases phase : task.phase <;> rw [phase] at quiet <;> first | rfl | cases quiet

theorem Task.Ok.frame {server next : Server} {task : Task} (ok : task.Ok server)
    (sessions : ∀ k row, task.sessionRows k = some row → next.session k = server.session k)
    (devices : ∀ k row, task.deviceRows k = some row → next.device k = server.device k) :
    task.Ok next := by
  unfold Ok at ok ⊢
  split at ok
  · obtain ⟨enrolling, held, noDevice⟩ := ok
    refine ⟨⟨enrolling.eligible, ?_⟩, held, noDevice⟩
    rw [sessions task.sessionId _ (by rw [held, only_self])]
    exact enrolling.found
  · obtain ⟨enrolling, held, ⟨name, rows⟩, absent⟩ := ok
    refine ⟨⟨enrolling.eligible, ?_⟩, held, ⟨name, rows⟩, ?_⟩
    · rw [sessions task.sessionId _ (by rw [held, only_self])]
      exact enrolling.found
    · rw [devices _ _ (by rw [rows, only_self])]
      exact absent
  · obtain ⟨enrolling, held, ⟨name, rows⟩, absent⟩ := ok
    refine ⟨⟨enrolling.eligible, ?_⟩, held, ⟨name, rows⟩, ?_⟩
    · rw [sessions task.sessionId _ (by rw [held, only_self])]
      exact enrolling.found
    · rw [devices _ _ (by rw [rows, only_self])]
      exact absent
  · obtain ⟨rotating, held, noDevice⟩ := ok
    refine ⟨⟨rotating.unrevoked, rotating.unexpired, rotating.bound, ?_⟩, held, noDevice⟩
    rw [sessions task.sessionId _ (by rw [held, only_self])]
    exact rotating.found
  · obtain ⟨rotating, ⟨expiresAt, held⟩, other, absent, noDevice⟩ := ok
    refine ⟨⟨rotating.unrevoked, rotating.unexpired, rotating.bound, ?_⟩, ⟨expiresAt, held⟩, other, ?_, noDevice⟩
    · rw [sessions task.sessionId _ (by rw [held, Function.update_of_ne other.symm, only_self])]
      exact rotating.found
    · rw [sessions _ _ (by rw [held, Function.update_self])]
      exact absent
  all_goals first
    | exact ok
    | constructor
      · intro k row holds
        obtain ⟨current, found, unrevoked, same⟩ := ok.sessions k row holds
        exact ⟨current, (sessions k row holds).trans found, unrevoked, same⟩
      · intro k row holds
        obtain ⟨current, found, same⟩ := ok.devices k row holds
        exact ⟨current, (devices k row holds).trans found, same⟩

structure Consistent (server : Server) : Prop where
  sessions : HeldBy Task.sessionRows server.tasks server.sessions
  devices : HeldBy Task.deviceRows server.tasks server.devices
  tasks : ∀ t task, server.tasks t = some task → task.Ok server

section

variable {server next : Server} {t : TxId} {task task' : Task}

theorem Consistent.advance (consistent : Consistent server)
    (tasks : next.tasks = Function.update server.tasks t (some task'))
    (sessions : HeldBy Task.sessionRows (Function.update server.tasks t (some task')) next.sessions)
    (devices : HeldBy Task.deviceRows (Function.update server.tasks t (some task')) next.devices)
    (own : task'.Ok next)
    (sessionsKept : ∀ other x, server.tasks other = some x → other ≠ t →
      ∀ k row, x.sessionRows k = some row → next.session k = server.session k)
    (devicesKept : ∀ other x, server.tasks other = some x → other ≠ t →
      ∀ k row, x.deviceRows k = some row → next.device k = server.device k) :
    Consistent next := by
  constructor
  · rw [tasks]
    exact sessions
  · rw [tasks]
    exact devices
  · intro other x opened
    rw [tasks] at opened
    by_cases mine : other = t
    · subst mine
      rw [Function.update_self, Option.some.injEq] at opened
      exact opened ▸ own
    · rw [Function.update_of_ne mine] at opened
      exact (consistent.tasks other x opened).frame (sessionsKept other x opened mine)
        (devicesKept other x opened mine)

theorem Consistent.resume (consistent : Consistent server) (opened : server.tasks t = some task)
    (sessionRows : task'.sessionRows = task.sessionRows)
    (deviceRows : task'.deviceRows = task.deviceRows) (own : task'.Ok server) :
    Consistent (server.resume t task') :=
  consistent.advance rfl (consistent.sessions.advance opened sessionRows)
    (consistent.devices.advance opened deviceRows)
    (own.frame (fun _ _ _ => rfl) fun _ _ _ => rfl) (fun _ _ _ _ _ _ _ => rfl)
    fun _ _ _ _ _ _ _ => rfl

theorem holdSession_session (sessionId : Id) (row : SessionRow) (phase : Phase) :
    (server.holdSession t task sessionId row phase).session = server.session := by
  funext k
  exact Table.hold_committed _ _ _ _ _

theorem holdDevice_device (deviceId : Id) (row : DeviceRow) (phase : Phase) :
    (server.holdDevice t task deviceId row phase).device = server.device := by
  funext k
  exact Table.hold_committed _ _ _ _ _

theorem Consistent.holdSession (consistent : Consistent server) (opened : server.tasks t = some task)
    (sessionId : Id) (row : SessionRow) (phase : Phase)
    (available : (server.sessions sessionId).available t = true)
    (own : Task.Ok server
      { task with sessionRows := Function.update task.sessionRows sessionId (some row), phase }) :
    Consistent (server.holdSession t task sessionId row phase) := by
  have same : (server.holdSession t task sessionId row phase).session = server.session :=
    holdSession_session sessionId row phase
  refine consistent.advance rfl ?_ ?_ (own.frame ?_ ?_) ?_ ?_
  · exact consistent.sessions.hold opened available rfl
  · exact consistent.devices.advance opened rfl
  · exact fun k _ _ => congrFun same k
  · exact fun _ _ _ => rfl
  · exact fun _ _ _ _ k _ _ => congrFun same k
  · exact fun _ _ _ _ _ _ _ => rfl

theorem Consistent.holdDevice {before : Task} (consistent : Consistent server)
    (opened : server.tasks t = some before) (sessionRows : task.sessionRows = before.sessionRows)
    (deviceRows : task.deviceRows = before.deviceRows) (deviceId : Id) (row : DeviceRow) (phase : Phase)
    (available : (server.devices deviceId).available t = true)
    (own : Task.Ok server
      { task with deviceRows := Function.update task.deviceRows deviceId (some row), phase }) :
    Consistent (server.holdDevice t task deviceId row phase) := by
  have same : (server.holdDevice t task deviceId row phase).device = server.device :=
    holdDevice_device deviceId row phase
  refine consistent.advance rfl ?_ ?_ (own.frame ?_ ?_) ?_ ?_
  · exact consistent.sessions.advance opened sessionRows
  · apply consistent.devices.hold opened available
    rw [← deviceRows]
  · exact fun _ _ _ => rfl
  · exact fun k _ _ => congrFun same k
  · exact fun _ _ _ _ _ _ _ => rfl
  · exact fun _ _ _ _ k _ _ => congrFun same k

theorem commit_session (consistent : Consistent server) (opened : server.tasks t = some task)
    (answer : Answer) (k : Id) :
    (server.commit t task answer).session k = (task.sessionRows k).or (server.session k) :=
  consistent.sessions.commit_committed opened k

theorem commit_device (consistent : Consistent server) (opened : server.tasks t = some task)
    (answer : Answer) (k : Id) :
    (server.commit t task answer).device k = (task.deviceRows k).or (server.device k) :=
  consistent.devices.commit_committed opened k

theorem Consistent.commit (consistent : Consistent server) (opened : server.tasks t = some task)
    (answer : Answer) : Consistent (server.commit t task answer) := by
  refine consistent.advance rfl (consistent.sessions.commit t fun _ => rfl)
    (consistent.devices.commit t fun _ => rfl) ⟨rfl, rfl⟩ ?_ ?_
  · intro other x there different k row holds
    rw [commit_session consistent opened]
    cases mine : task.sessionRows k with
    | none => rfl
    | some found => exact absurd (consistent.sessions.exclusive there opened holds mine) different
  · intro other x there different k row holds
    rw [commit_device consistent opened]
    cases mine : task.deviceRows k with
    | none => rfl
    | some found => exact absurd (consistent.devices.exclusive there opened holds mine) different

theorem abort_session (answer : Answer) (k : Id) :
    (server.abort t task answer).session k = server.session k := Table.abort_committed _ _ _

theorem abort_device (answer : Answer) (k : Id) :
    (server.abort t task answer).device k = server.device k := Table.abort_committed _ _ _

theorem Consistent.abort (consistent : Consistent server) (answer : Answer) :
    Consistent (server.abort t task answer) := by
  refine consistent.advance rfl (consistent.sessions.abort t fun _ => rfl)
    (consistent.devices.abort t fun _ => rfl) ⟨rfl, rfl⟩ ?_ ?_
  · exact fun _ _ _ _ k _ _ => abort_session answer k
  · exact fun _ _ _ _ k _ _ => abort_device answer k

theorem Consistent.putSession (consistent : Consistent server) {sessionId : Id}
    (free : (server.sessions sessionId).lock = none) (row : SessionRow) :
    Consistent { server with sessions := server.sessions.put sessionId row } := by
  constructor
  · exact consistent.sessions.put row free
  · exact consistent.devices
  · intro other x opened
    refine (consistent.tasks other x opened).frame ?_ fun _ _ _ => rfl
    intro k held holds
    have locked := consistent.sessions.locked opened holds
    refine (Table.put_committed _ _ _ _).trans (if_neg ?_)
    rintro rfl
    rw [free] at locked
    cases locked

theorem Consistent.putDevice (consistent : Consistent server) {deviceId : Id}
    (free : (server.devices deviceId).lock = none) (row : DeviceRow) :
    Consistent { server with devices := server.devices.put deviceId row } := by
  constructor
  · exact consistent.sessions
  · exact consistent.devices.put row free
  · intro other x opened
    refine (consistent.tasks other x opened).frame (fun _ _ _ => rfl) ?_
    intro k held holds
    have locked := consistent.devices.locked opened holds
    refine (Table.put_committed _ _ _ _).trans (if_neg ?_)
    rintro rfl
    rw [free] at locked
    cases locked

theorem Consistent.histories (consistent : Consistent server) (sessions : next.sessions = server.sessions)
    (devices : next.devices = server.devices) (tasks : next.tasks = server.tasks) :
    Consistent next := by
  constructor
  · rw [sessions, tasks]
    exact consistent.sessions
  · rw [devices, tasks]
    exact consistent.devices
  · intro t task opened
    rw [tasks] at opened
    refine (consistent.tasks t task opened).frame ?_ ?_
    · intro k _ _
      rw [Server.session, sessions]
      rfl
    · intro k _ _
      rw [Server.device, devices]
      rfl

theorem unused_iff {K V : Type} {table : Table K TxId V} {key : K} :
    unused table key = true ↔ (table key).committed = none ∧ (table key).lock = none := by
  simp [unused]

theorem available_of_free {K V : Type} {table : Table K TxId V} {key : K}
    (free : (table key).lock = none) : (table key).available t = true := by
  simp [Slot.available, free]

section Statements

variable (consistent : Consistent server) (opened : server.tasks t = some task)

include consistent opened

theorem holds_nothing (quiet : task.phase.quiet = true) :
    (task.sessionRows = fun _ => none) ∧ task.deviceRows = fun _ => none :=
  (Task.ok_quiet quiet).mp (consistent.tasks t task opened)

theorem consistent_sessionBound {deviceId : Id} {row : SessionRow}
    (phase : task.phase = .bindSessionToDevice deviceId)
    (available : (server.sessions task.sessionId).available t = true) :
    Consistent
      ({ server with
          sessions := server.sessions.put task.sessionId { row with deviceId := some deviceId }
          bindings := server.bindings ++ [(task.sessionId, deviceId)] }.resume t
        { task with phase := .answered (.device deviceId) }) := by
  have nothing := holds_nothing consistent opened (by rw [phase]; rfl)
  have free := consistent.sessions.free opened (congrFun nothing.1 _) available
  have bound := consistent.putSession free { row with deviceId := some deviceId }
  have kept : Consistent ({ server with
      sessions := server.sessions.put task.sessionId { row with deviceId := some deviceId }
      bindings := server.bindings ++ [(task.sessionId, deviceId)] } : Server) :=
    bound.histories rfl rfl rfl
  exact kept.resume opened rfl rfl nothing

theorem consistent_sessionLocked {name : String} {row : SessionRow} (now : Timestamp)
    (phase : task.phase = .selectSessionForUpdate name)
    (available : (server.sessions task.sessionId).available t = true)
    (found : server.session task.sessionId = some row) :
    Consistent (server.holdSession t task task.sessionId row
      (checkEligible task.backend name row now)) := by
  have nothing := holds_nothing consistent opened (by rw [phase]; rfl)
  apply consistent.holdSession opened _ _ _ available
  rcases checkEligible_cases task.backend name row now with refused | ⟨passed, eligible⟩
  · rw [refused]
    trivial
  · rw [passed]
    refine ⟨⟨eligible, found⟩, ?_, nothing.2⟩
    rw [nothing.1]
    rfl

theorem consistent_bearerInserted {name : String} {session : SessionRow} {checkedAt : Timestamp}
    {uuid : Id} (phase : task.phase = .insertBearerDevice name session checkedAt)
    (fresh : unused server.devices uuid = true) :
    Consistent (server.holdDevice t task uuid
      ⟨session.accountId, name, none, .bearerSessionV1, none⟩
      (.bindLockedSession uuid session checkedAt)) := by
  have ok := consistent.tasks t task opened
  rw [Task.Ok, phase] at ok
  obtain ⟨enrolling, held, noDevice⟩ := ok
  obtain ⟨absent, free⟩ := unused_iff.mp fresh
  apply consistent.holdDevice opened rfl rfl _ _ _ (available_of_free free)
  refine ⟨⟨enrolling.eligible, enrolling.found⟩, held, ⟨name, ?_⟩, absent⟩
  rw [noDevice]
  rfl

-- The transaction sees the session row that it has locked.
theorem view_bindLockedSession {deviceId : Id} {session : SessionRow} {checkedAt : Timestamp}
    (phase : task.phase = .bindLockedSession deviceId session checkedAt) :
    (server.sessions task.sessionId).view t = some session := by
  have ok := consistent.tasks t task opened
  rw [Task.Ok, phase] at ok
  obtain ⟨enrolling, held, unpublished⟩ := ok
  rw [consistent.sessions.view opened (by rw [held, only_self])]

theorem consistent_lockedBound {deviceId : Id} {session : SessionRow} {checkedAt : Timestamp}
    (phase : task.phase = .bindLockedSession deviceId session checkedAt)
    (available : (server.sessions task.sessionId).available t = true) :
    Consistent (server.holdSession t task task.sessionId { session with deviceId := some deviceId }
      (.commitEnrollment deviceId session checkedAt)) := by
  have ok := consistent.tasks t task opened
  rw [Task.Ok, phase] at ok
  obtain ⟨enrolling, held, unpublished⟩ := ok
  apply consistent.holdSession opened _ _ _ available
  refine ⟨⟨enrolling.eligible, enrolling.found⟩, ?_, unpublished.rows, unpublished.absent⟩
  rw [held, only_update]
  rfl

theorem consistent_rotated {ttl : Timestamp} {deviceId : Id} {row : SessionRow}
    (phase : task.phase = .rotateUpdate ttl deviceId)
    (available : (server.sessions task.sessionId).available t = true)
    (found : server.session task.sessionId = some row) (unrevoked : row.revokedAt = none)
    (unexpired : task.startedAt < row.expiresAt) (bound : row.deviceId = some deviceId) :
    Consistent (server.holdSession t task task.sessionId
      { row with revokedAt := some task.startedAt } (.insertSuccessor ttl deviceId row)) := by
  have nothing := holds_nothing consistent opened (by rw [phase]; rfl)
  apply consistent.holdSession opened _ _ _ available
  refine ⟨⟨unrevoked, unexpired, bound, found⟩, ?_, nothing.2⟩
  rw [nothing.1]
  rfl

theorem consistent_successorInserted {ttl : Timestamp} {deviceId : Id} {session : SessionRow}
    (now : Timestamp) {uuid : Id} (phase : task.phase = .insertSuccessor ttl deviceId session)
    (fresh : unused server.sessions uuid = true) :
    Consistent (server.holdSession t task uuid
      ⟨session.accountId, some deviceId, .refresh, now + ttl, none⟩
      (.commitRotation uuid deviceId session)) := by
  have ok := consistent.tasks t task opened
  rw [Task.Ok, phase] at ok
  obtain ⟨rotating, held, noDevice⟩ := ok
  obtain ⟨absent, free⟩ := unused_iff.mp fresh
  have other : uuid ≠ task.sessionId := by
    rintro rfl
    have found := rotating.found
    rw [Server.session, absent] at found
    cases found
  apply consistent.holdSession opened _ _ _ (available_of_free free)
  refine ⟨⟨rotating.unrevoked, rotating.unexpired, rotating.bound, rotating.found⟩,
    ⟨now + ttl, ?_⟩, other, absent, noDevice⟩
  rw [held]
  rfl

theorem consistent_loggedOut {row : SessionRow} (now : Timestamp)
    (phase : task.phase = .revokeSession)
    (available : (server.sessions task.sessionId).available t = true) :
    Consistent
      ({ server with
          sessions := server.sessions.put task.sessionId { row with revokedAt := some now } }.resume t
        { task with phase := .answered .noContent }) := by
  have nothing := holds_nothing consistent opened (by rw [phase]; rfl)
  have free := consistent.sessions.free opened (congrFun nothing.1 _) available
  exact (consistent.putSession free { row with revokedAt := some now }).resume opened rfl rfl nothing

theorem consistent_deviceUpdated {deviceId : Id} {row : DeviceRow} (now : Timestamp)
    (phase : task.phase = .updateDevice deviceId)
    (available : (server.devices deviceId).available t = true)
    (found : server.device deviceId = some row) :
    Consistent (server.holdDevice t { task with startedAt := now } deviceId
      { row with revokedAt := some now } (.selectBoundSessions deviceId)) := by
  have nothing := holds_nothing consistent opened (by rw [phase]; rfl)
  refine consistent.holdDevice opened ?_ ?_ _ _ _ available ?_
  · rfl
  · rfl
  constructor
  · intro k held holds
    have none := congrFun nothing.1 k
    change task.sessionRows k = some held at holds
    rw [none] at holds
    cases holds
  · intro k held holds
    change Function.update task.deviceRows deviceId _ k = some held at holds
    rw [nothing.2, ← only, only_eq_some] at holds
    obtain ⟨rfl, rfl⟩ := holds
    exact ⟨row, found, rfl⟩

theorem consistent_targetRevoked {deviceId target : Id} {rest : List Id} {row : SessionRow}
    (phase : task.phase = .updateBoundSessions deviceId (target :: rest))
    (available : (server.sessions target).available t = true)
    (found : server.session target = some row) (unrevoked : row.revokedAt = none) :
    Consistent (server.holdSession t task target { row with revokedAt := some task.startedAt }
      (.updateBoundSessions deviceId rest)) := by
  have ok := consistent.tasks t task opened
  rw [Task.Ok, phase] at ok
  apply consistent.holdSession opened _ _ _ available
  constructor
  · intro k held holds
    change Function.update task.sessionRows target _ k = some held at holds
    by_cases here : k = target
    · subst here
      rw [Function.update_self] at holds
      cases holds
      exact ⟨row, found, unrevoked, rfl⟩
    · rw [Function.update_of_ne here] at holds
      exact ok.sessions k held holds
  · exact ok.devices

theorem consistent_executed (executed : Executed server t task next) : Consistent next := by
  have ok := consistent.tasks t task opened
  cases executed with
  | passed phase startedAt quiet passed =>
      have nothing := holds_nothing consistent opened quiet
      apply consistent.resume opened
      · rfl
      · rfl
      · rcases passed with quiet | ⟨answer, rfl⟩
        · exact (Task.ok_quiet quiet).mpr nothing
        · trivial
  | deviceCreated name publicKey uuid phase fresh =>
      have nothing := holds_nothing consistent opened (by rw [phase]; rfl)
      have created := consistent.putDevice (unused_iff.mp fresh).2
        ⟨task.auth.accountId, name, some publicKey, .legacyPublicKey, none⟩
      exact created.resume opened rfl rfl nothing
  | sessionBound deviceId row phase available found =>
      exact consistent_sessionBound consistent opened phase available
  | sessionLocked name row now phase available found =>
      exact consistent_sessionLocked consistent opened now phase available found
  | bearerInserted name session checkedAt uuid phase fresh =>
      exact consistent_bearerInserted consistent opened phase fresh
  | lockedBound deviceId session checkedAt row phase available viewed =>
      cases (view_bindLockedSession consistent opened phase).symm.trans viewed
      exact consistent_lockedBound consistent opened phase available
  | lockedGone deviceId session checkedAt phase viewed =>
      cases (view_bindLockedSession consistent opened phase).symm.trans viewed
  | enrolled deviceId session checkedAt phase =>
      exact (consistent.commit opened _).histories rfl rfl rfl
  | rotated ttl deviceId row phase available found unrevoked unexpired bound =>
      exact consistent_rotated consistent opened phase available found unrevoked unexpired bound
  | successorInserted ttl deviceId session now uuid phase fresh =>
      exact (consistent_successorInserted consistent opened now phase fresh).histories rfl rfl rfl
  | rotationCommitted successor deviceId session phase =>
      exact (consistent.commit opened _).histories rfl rfl rfl
  | loggedOut row now phase available found =>
      exact consistent_loggedOut consistent opened now phase available
  | deviceUpdated deviceId row now phase available found owned unrevoked =>
      exact consistent_deviceUpdated consistent opened now phase available found
  | boundSelected deviceId targets phase =>
      rw [Task.Ok, phase] at ok
      exact consistent.resume opened rfl rfl ⟨ok.sessions, ok.devices⟩
  | targetPassed deviceId target rest phase =>
      rw [Task.Ok, phase] at ok
      exact consistent.resume opened rfl rfl ⟨ok.sessions, ok.devices⟩
  | targetRevoked deviceId target rest row phase available found bound unrevoked =>
      exact consistent_targetRevoked consistent opened phase available found unrevoked
  | targetsDone deviceId phase =>
      rw [Task.Ok, phase] at ok
      exact consistent.resume opened rfl rfl ⟨ok.sessions, ok.devices⟩
  | revocationCommitted phase => exact consistent.commit opened _
  | rolledBack answer phase => exact consistent.abort _

end Statements

theorem firstPhase_quiet (auth : AuthSession) (request : Request) :
    (firstPhase auth request).quiet = true := by
  cases request with
  | refresh ttl =>
      unfold firstPhase
      cases auth.deviceId <;> rfl
  | createDevice => rfl
  | enrollBearerSession => rfl
  | logout => rfl
  | revokeDevice => rfl

theorem consistent_initial : Consistent Server.initial := by
  constructor
  · intro k owner version
    constructor
    · intro locked
      cases locked
    · rintro ⟨x, row, opened, -⟩
      cases opened
  · intro k owner version
    constructor
    · intro locked
      cases locked
    · rintro ⟨x, row, opened, -⟩
      cases opened
  · intro t task opened
    cases opened

theorem consistent_step {action : Action} (consistent : Consistent server)
    (stepped : step server action = some next) : Consistent next := by
  cases step_cases stepped with
  | issued sessionId accountId expiresAt fresh =>
      exact (consistent.putSession (unused_iff.mp fresh).2 _).histories rfl rfl rfl
  | requested t backend sessionId now request auth closed resolved =>
      have quiet : Task.Ok server { backend, auth, phase := firstPhase auth request } :=
        (Task.ok_quiet (firstPhase_quiet auth request)).mpr ⟨rfl, rfl⟩
      refine consistent.advance rfl (consistent.sessions.start closed fun _ => rfl)
        (consistent.devices.start closed fun _ => rfl)
        (quiet.frame (fun _ _ _ => rfl) fun _ _ _ => rfl) ?_ ?_
      · exact fun _ _ _ _ _ _ _ => rfl
      · exact fun _ _ _ _ _ _ _ => rfl
  | statement t now uuid task next opened executed =>
      exact consistent_executed consistent opened executed
  | failed t task opened unanswered => exact consistent.abort _

theorem consistent_run {actions : List Action} {final : Server}
    (ran : Transition.run step Server.initial actions = some final) : Consistent final :=
  Transition.run_preserves (fun _ _ _ consistent stepped => consistent_step consistent stepped)
    consistent_initial ran

end

end ZenPass.Auth
