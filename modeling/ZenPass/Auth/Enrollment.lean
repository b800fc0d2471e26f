import ZenPass.Auth.Commits

set_option autoImplicit false

namespace ZenPass.Auth

open Transition
open Sync (Id Backend Timestamp)

theorem not_expired {backend : Backend} {expiresAt now : Timestamp}
    (unexpired : expired backend expiresAt now = false) : now < expiresAt := by
  cases backend with
  | node =>
      simp only [expired, decide_eq_false_iff_not, Nat.not_le] at unexpired
      exact Nat.lt_of_div_lt_div unexpired
  | rust =>
      simp only [expired, decide_eq_false_iff_not, Nat.not_le] at unexpired
      exact unexpired

def Phase.enrolling : Phase → Bool
  | .selectSessionForUpdate _ | .insertBearerDevice _ _ _ | .bindLockedSession _ _ _
  | .rollback _ => true
  | _ => false

/-- The sessions that have been used, and the devices that came of them. -/
structure Enrolled (server : Server) : Prop where
  bound : ∀ enrollment ∈ server.enrollments, ∃ row,
    server.session enrollment.sessionId = some row ∧ row.deviceId.isSome = true
  once : (server.enrollments.map Enrollment.sessionId).Nodup
  eligible : ∀ enrollment ∈ server.enrollments, ∃ backend,
    Eligible backend enrollment.session enrollment.checkedAt
  device : ∀ enrollment ∈ server.enrollments, ∃ device,
    server.device enrollment.deviceId = some device ∧
      device.accountId = enrollment.session.accountId ∧ device.enrollmentMode = .bearerSessionV1
  only : ∀ deviceId device, server.device deviceId = some device →
    device.enrollmentMode = .bearerSessionV1 →
      ∃ enrollment ∈ server.enrollments, enrollment.deviceId = deviceId

section

variable {server next : Server} {action : Action}

theorem Commit.keepsBound (commit : Commit server action next) {sessionId : Id}
    (bound : ∃ row, server.session sessionId = some row ∧ row.deviceId.isSome = true) :
    ∃ row, next.session sessionId = some row ∧ row.deviceId.isSome = true := by
  obtain ⟨row, found, isBound⟩ := bound
  obtain ⟨after, found', keeps⟩ := commit.keeps found
  exact ⟨after, found', keeps.bound isBound⟩

theorem Commit.keepsEnrolledDevice (commit : Commit server action next) {deviceId accountId : Id}
    (enrolled : ∃ device, server.device deviceId = some device ∧ device.accountId = accountId ∧
      device.enrollmentMode = .bearerSessionV1) :
    ∃ device, next.device deviceId = some device ∧ device.accountId = accountId ∧
      device.enrollmentMode = .bearerSessionV1 := by
  obtain ⟨device, found, account, mode⟩ := enrolled
  obtain ⟨after, found', sameAccount, sameMode, -⟩ := commit.keepsDevice found
  exact ⟨after, found', sameAccount.trans account, sameMode.trans mode⟩

theorem Enrolled.kept (enrolled : Enrolled server) (commit : Commit server action next)
    (enrollments : next.enrollments = server.enrollments)
    (old : ∀ deviceId device, next.device deviceId = some device →
      device.enrollmentMode = .bearerSessionV1 →
        ∃ before, server.device deviceId = some before ∧
          before.enrollmentMode = .bearerSessionV1) : Enrolled next := by
  constructor
  · rw [enrollments]
    intro enrollment member
    exact commit.keepsBound (enrolled.bound enrollment member)
  · rw [enrollments]
    exact enrolled.once
  · rw [enrollments]
    exact enrolled.eligible
  · rw [enrollments]
    intro enrollment member
    exact commit.keepsEnrolledDevice (enrolled.device enrollment member)
  · rw [enrollments]
    intro deviceId device found mode
    obtain ⟨before, there, mode⟩ := old deviceId device found mode
    exact enrolled.only deviceId before there mode

theorem enrolled_commit (enrolled : Enrolled server) (commit : Commit server action next) :
    Enrolled next := by
  have kept := enrolled.kept commit
  cases commit with
  | nothing _ _ _ device _ _ enrollments =>
      exact kept enrollments fun deviceId row found mode => ⟨row, by rw [← device, found], mode⟩
  | issued _ _ _ _ _ _ device _ _ enrollments =>
      exact kept enrollments fun deviceId row found mode => ⟨row, by rw [← device, found], mode⟩
  | bound _ _ _ _ _ _ _ _ _ _ _ device _ _ enrollments =>
      exact kept enrollments fun deviceId row found mode => ⟨row, by rw [← device, found], mode⟩
  | loggedOut _ _ _ _ _ _ _ device _ _ enrollments =>
      exact kept enrollments fun deviceId row found mode => ⟨row, by rw [← device, found], mode⟩
  | rotated _ _ _ _ _ _ _ _ _ _ _ _ _ _ _ _ _ device _ _ enrollments =>
      exact kept enrollments fun deviceId row found mode => ⟨row, by rw [← device, found], mode⟩
  | deviceCreated _ _ created row absent legacy _ device _ _ enrollments =>
      apply kept enrollments
      intro deviceId found there mode
      rw [device] at there
      by_cases here : deviceId = created
      · subst here
        rw [Function.update_self] at there
        cases there
        rw [legacy] at mode
        cases mode
      · rw [Function.update_of_ne here] at there
        exact ⟨found, there, mode⟩
  | revoked _ _ _ device _ _ enrollments =>
      apply kept enrollments
      intro deviceId found there mode
      rcases device deviceId with same | ⟨row, time, before, after⟩
      · exact ⟨found, by rw [← same, there], mode⟩
      · rw [after] at there
        cases there
        exact ⟨row, before, mode⟩
  | enrolled t now uuid task _ deviceId row checkedAt name opened phase eligible found absent session
      device bindings successors enrollments =>
      have commit : Commit server (.statement t now uuid) next :=
        .enrolled t now uuid task next deviceId row checkedAt name opened phase eligible found absent
          session device bindings successors enrollments
      constructor
      · intro enrollment member
        rw [enrollments, List.mem_append, List.mem_singleton] at member
        rcases member with old | rfl
        · exact commit.keepsBound (enrolled.bound enrollment old)
        · exact ⟨_, (congrFun session _).trans (Function.update_self _ _ _), rfl⟩
      · rw [enrollments, List.map_append, List.map_singleton, List.nodup_append]
        refine ⟨enrolled.once, List.nodup_singleton _, ?_⟩
        intro sessionId member other single
        rw [List.mem_singleton] at single
        subst single
        rintro rfl
        -- The session of an earlier enrolment is bound, this one was not.
        obtain ⟨earlier, here, same⟩ := List.mem_map.mp member
        obtain ⟨held, there, isBound⟩ := enrolled.bound earlier here
        rw [same, found] at there
        cases there
        rw [eligible.unbound] at isBound
        cases isBound
      · intro enrollment member
        rw [enrollments, List.mem_append, List.mem_singleton] at member
        rcases member with old | rfl
        · exact enrolled.eligible enrollment old
        · exact ⟨task.backend, eligible⟩
      · intro enrollment member
        rw [enrollments, List.mem_append, List.mem_singleton] at member
        rcases member with old | rfl
        · exact commit.keepsEnrolledDevice (enrolled.device enrollment old)
        · exact ⟨_, (congrFun device _).trans (Function.update_self _ _ _), rfl, rfl⟩
      · intro other held there mode
        rw [enrollments]
        by_cases here : other = deviceId
        · exact ⟨_, List.mem_append_right _ (List.mem_singleton_self _), here.symm⟩
        · rw [device, Function.update_of_ne here] at there
          obtain ⟨enrollment, member, same⟩ := enrolled.only other held there mode
          exact ⟨enrollment, List.mem_append_left _ member, same⟩

theorem enrolled_run {actions : List Action} {final : Server}
    (ran : run step Server.initial actions = some final) : Enrolled final := by
  have start : Consistent Server.initial ∧ Enrolled Server.initial := by
    refine ⟨consistent_initial, ?_, List.nodup_nil, ?_, ?_, ?_⟩
    · intro enrollment nothing
      cases nothing
    · intro enrollment nothing
      cases nothing
    · intro enrollment nothing
      cases nothing
    · intro deviceId device nothing
      cases nothing
  have preserved : ∀ server action next, Consistent server ∧ Enrolled server →
      step server action = some next → Consistent next ∧ Enrolled next := by
    intro server action next held stepped
    exact ⟨consistent_step held.1 stepped, enrolled_commit held.2 (step_commit held.1 stepped)⟩
  exact (run_preserves preserved start ran).2

theorem executed_enrolling {t : TxId} {task : Task} (enrolling : task.phase.enrolling = true)
    (executed : Executed server t task next) :
    next.session = server.session ∧ next.device = server.device := by
  cases executed with
  | passed => exact ⟨rfl, rfl⟩
  | sessionLocked => exact ⟨holdSession_session _ _ _, rfl⟩
  | bearerInserted => exact ⟨rfl, holdDevice_device _ _ _⟩
  | lockedBound => exact ⟨holdSession_session _ _ _, rfl⟩
  | lockedGone => exact ⟨rfl, rfl⟩
  | rolledBack => exact ⟨funext (abort_session _), funext (abort_device _)⟩
  | deviceCreated _ _ _ phase => simp [Phase.enrolling, phase] at enrolling
  | sessionBound _ _ phase => simp [Phase.enrolling, phase] at enrolling
  | enrolled _ _ _ phase => simp [Phase.enrolling, phase] at enrolling
  | rotated _ _ _ phase => simp [Phase.enrolling, phase] at enrolling
  | successorInserted _ _ _ _ _ phase => simp [Phase.enrolling, phase] at enrolling
  | rotationCommitted _ _ _ phase => simp [Phase.enrolling, phase] at enrolling
  | loggedOut _ _ phase => simp [Phase.enrolling, phase] at enrolling
  | deviceUpdated _ _ _ phase => simp [Phase.enrolling, phase] at enrolling
  | boundSelected _ _ phase => simp [Phase.enrolling, phase] at enrolling
  | targetPassed _ _ _ phase => simp [Phase.enrolling, phase] at enrolling
  | targetRevoked _ _ _ _ phase => simp [Phase.enrolling, phase] at enrolling
  | targetsDone _ phase => simp [Phase.enrolling, phase] at enrolling
  | revocationCommitted phase => simp [Phase.enrolling, phase] at enrolling

structure EnrollmentCommitted (server next : Server) (task : Task) (deviceId : Id) (row : SessionRow)
    (checkedAt : Timestamp) : Prop where
  found : server.session task.sessionId = some row
  unrevoked : row.revokedAt = none
  unexpired : checkedAt < row.expiresAt
  unbound : row.deviceId = none
  issuedVia : row.issuedVia = .opaqueLogin
  session : next.session =
    Function.update server.session task.sessionId (some { row with deviceId := some deviceId })
  device : ∃ name, next.device = Function.update server.device deviceId
    (some ⟨row.accountId, name, none, .bearerSessionV1, none⟩)
  enrollments : next.enrollments =
    server.enrollments ++ [⟨task.sessionId, deviceId, row, checkedAt⟩]

theorem enrollment_committed {t : TxId} {task : Task} {deviceId : Id} {row : SessionRow}
    {checkedAt : Timestamp} (consistent : Consistent server) (opened : server.tasks t = some task)
    (phase : task.phase = .commitEnrollment deviceId row checkedAt) (now : Timestamp) (uuid : Id)
    (stepped : step server (.statement t now uuid) = some next) :
    EnrollmentCommitted server next task deviceId row checkedAt := by
  have ok := consistent.tasks t task opened
  rw [Task.Ok, phase] at ok
  obtain ⟨⟨eligible, found⟩, held, ⟨name, rows⟩, absent⟩ := ok
  simp only [step, opened, statement, phase, Option.some.injEq] at stepped
  subst stepped
  constructor
  · exact found
  · exact eligible.unrevoked
  · exact not_expired eligible.unexpired
  · exact eligible.unbound
  · exact eligible.issuedVia
  · rw [← or_only, ← held]
    funext k
    exact commit_session consistent opened (.device deviceId) k
  · refine ⟨name, ?_⟩
    rw [← or_only, ← rows]
    funext k
    exact commit_device consistent opened (.device deviceId) k
  · rfl

end

/-- Whatever the interleaving of statements, bearer devices come of committed enrolments only, each
of a session that no other enrolment has used and that was eligible under the lock. Until their
commit, and if they never get there, enrolments change neither table. -/
structure EnrollmentSound (server : Server) : Prop where
  once : (server.enrollments.map Enrollment.sessionId).Nodup
  eligible : ∀ enrollment ∈ server.enrollments, ∃ backend,
    Eligible backend enrollment.session enrollment.checkedAt
  device : ∀ enrollment ∈ server.enrollments, ∃ device,
    server.device enrollment.deviceId = some device ∧
      device.accountId = enrollment.session.accountId ∧ device.enrollmentMode = .bearerSessionV1
  only : ∀ deviceId device, server.device deviceId = some device →
    device.enrollmentMode = .bearerSessionV1 →
      ∃ enrollment ∈ server.enrollments, enrollment.deviceId = deviceId
  committed : ∀ t task deviceId row checkedAt now uuid next, server.tasks t = some task →
    task.phase = .commitEnrollment deviceId row checkedAt →
      step server (.statement t now uuid) = some next →
        EnrollmentCommitted server next task deviceId row checkedAt
  enrolling : ∀ t task now uuid next, server.tasks t = some task → task.phase.enrolling = true →
    step server (.statement t now uuid) = some next →
      next.session = server.session ∧ next.device = server.device
  failed : ∀ t next, step server (.fail t) = some next →
    next.session = server.session ∧ next.device = server.device

theorem bearer_enrollment (actions : List Action) (server : Server)
    (ran : run step Server.initial actions = some server) : EnrollmentSound server := by
  have consistent := consistent_run ran
  have enrolled := enrolled_run ran
  constructor
  · exact enrolled.once
  · exact enrolled.eligible
  · exact enrolled.device
  · exact enrolled.only
  · intro t task deviceId row checkedAt now uuid next opened phase stepped
    exact enrollment_committed consistent opened phase now uuid stepped
  · intro t task now uuid next opened enrolling stepped
    simp only [step, opened] at stepped
    exact executed_enrolling enrolling (statement_cases stepped)
  · intro t next failed
    cases step_cases failed with
    | failed _ task opened unanswered =>
        exact ⟨funext (abort_session _), funext (abort_device _)⟩

section Samples

def doubleEnrollment : List Action :=
  .issueSession "s1" "account" 1000000 ::
    .request 0 .node "s1" 0 (.enrollBearerSession "laptop") ::
    .request 1 .rust "s1" 0 (.enrollBearerSession "phone") ::
    .statement 0 0 "" :: .statement 0 0 "d1" :: .statement 0 0 "" :: .statement 0 0 "" ::
    List.replicate 2 (.statement 1 0 "")

theorem bearer_enrollment_double :
    ∃ server, run step Server.initial doubleEnrollment = some server ∧
      server.enrollments.map Enrollment.deviceId = ["d1"] ∧ EnrollmentSound server := by
  have ran : run step Server.initial doubleEnrollment = some _ := run_reached (by decide +kernel)
  exact ⟨_, ran, by decide +kernel, bearer_enrollment doubleEnrollment _ ran⟩

end Samples

end ZenPass.Auth
