import Mathlib.Logic.Relation
import ZenPass.Auth.Commits

set_option autoImplicit false

namespace ZenPass.Auth

open Transition
open Sync (Id Backend Timestamp)

def Server.Successor (server : Server) (original successor : Id) : Prop :=
  (original, successor) ∈ server.successors

/-- The session was obtained from the other by any number of refreshes. -/
def Server.Refreshed (server : Server) : Id → Id → Prop :=
  Relation.ReflTransGen server.Successor

def Server.Revoked (server : Server) (sessionId : Id) : Prop :=
  ∃ row, server.session sessionId = some row ∧ row.revokedAt.isSome = true

def Server.Live (server : Server) (sessionId : Id) : Prop :=
  ∃ backend now, (resolveSession server backend sessionId now).isSome = true

structure Chains (server : Server) : Prop where
  revoked : ∀ original successor, server.Successor original successor → server.Revoked original
  once : (server.successors.map Prod.fst).Nodup

section

variable {server next : Server} {action : Action}

theorem Commit.keepsRevoked (commit : Commit server action next) {sessionId : Id}
    (revoked : server.Revoked sessionId) : next.Revoked sessionId := by
  obtain ⟨row, found, isRevoked⟩ := revoked
  obtain ⟨after, found', keeps⟩ := commit.keeps found
  exact ⟨after, found', keeps.revoked isRevoked⟩

theorem Commit.successors_cases (commit : Commit server action next) :
    next.successors = server.successors ∨
      ∃ original successor, next.successors = server.successors ++ [(original, successor)] ∧
        ¬ server.Revoked original ∧ next.Revoked original := by
  cases commit with
  | rotated t now uuid task _ successor deviceId row expiresAt opened phase unrevoked bound found other
      absent session _ _ successors =>
      refine .inr ⟨task.sessionId, successor, successors, ?_, task.revoked row, ?_, rfl⟩
      · rintro ⟨held, there, revoked⟩
        rw [found] at there
        cases there
        rw [unrevoked] at revoked
        cases revoked
      · rw [session, Function.update_of_ne other.symm, Function.update_self]
  | nothing _ _ _ _ _ successors => exact .inl successors
  | issued _ _ _ _ _ _ _ _ successors => exact .inl successors
  | deviceCreated _ _ _ _ _ _ _ _ _ successors => exact .inl successors
  | bound _ _ _ _ _ _ _ _ _ _ _ _ _ successors => exact .inl successors
  | loggedOut _ _ _ _ _ _ _ _ _ successors => exact .inl successors
  | enrolled _ _ _ _ _ _ _ _ _ _ _ _ _ _ _ _ _ successors => exact .inl successors
  | revoked _ _ _ _ _ successors => exact .inl successors

theorem chains_commit (chains : Chains server) (commit : Commit server action next) :
    Chains next := by
  rcases commit.successors_cases with same | ⟨original, successor, added, unrevoked, revoked⟩
  · constructor
    · intro earlier later edge
      rw [Server.Successor, same] at edge
      exact commit.keepsRevoked (chains.revoked earlier later edge)
    · rw [same]
      exact chains.once
  · constructor
    · intro earlier later edge
      rw [Server.Successor, added, List.mem_append, List.mem_singleton] at edge
      rcases edge with old | new
      · exact commit.keepsRevoked (chains.revoked earlier later old)
      · cases new
        exact revoked
    · rw [added, List.map_append, List.map_singleton, List.nodup_append]
      refine ⟨chains.once, List.nodup_singleton _, ?_⟩
      intro earlier member other single
      rw [List.mem_singleton] at single
      subst single
      rintro rfl
      obtain ⟨edge, here, rfl⟩ := List.mem_map.mp member
      exact unrevoked (chains.revoked edge.1 edge.2 here)

theorem chains_run {actions : List Action} {final : Server}
    (ran : run step Server.initial actions = some final) : Chains final := by
  have start : Consistent Server.initial ∧ Chains Server.initial := by
    refine ⟨consistent_initial, ?_, List.nodup_nil⟩
    intro original successor edge
    cases edge
  have preserved : ∀ server action next, Consistent server ∧ Chains server →
      step server action = some next → Consistent next ∧ Chains next := by
    intro server action next held stepped
    exact ⟨consistent_step held.1 stepped, chains_commit held.2 (step_commit held.1 stepped)⟩
  exact (run_preserves preserved start ran).2

theorem Chains.successor_unique (chains : Chains server) {original first second : Id}
    (toFirst : server.Successor original first) (toSecond : server.Successor original second) :
    first = second := by
  have same := List.inj_on_of_nodup_map chains.once toFirst toSecond rfl
  exact congrArg Prod.snd same

theorem not_live_of_revoked {sessionId : Id} (revoked : server.Revoked sessionId) :
    ¬ server.Live sessionId := by
  rintro ⟨backend, now, resolved⟩
  obtain ⟨row, found, isRevoked⟩ := revoked
  simp [resolveSession, found, isRevoked] at resolved

theorem Chains.eq_of_refreshed (chains : Chains server) {first second : Id}
    (refreshed : server.Refreshed first second) (live : server.Live first) : first = second := by
  cases Relation.ReflTransGen.cases_head refreshed with
  | inl same => exact same
  | inr edge =>
      obtain ⟨successor, isSuccessor, -⟩ := edge
      exact absurd live (not_live_of_revoked (chains.revoked first successor isSuccessor))

theorem Chains.one_live (chains : Chains server) {root first second : Id}
    (toFirst : server.Refreshed root first) (toSecond : server.Refreshed root second)
    (liveFirst : server.Live first) (liveSecond : server.Live second) : first = second := by
  have unique : Relator.RightUnique server.Successor :=
    fun _ _ _ toOne toOther => chains.successor_unique toOne toOther
  rcases Relation.ReflTransGen.total_of_right_unique unique toFirst toSecond with forth | back
  · exact chains.eq_of_refreshed forth liveFirst
  · exact (chains.eq_of_refreshed back liveSecond).symm

theorem successors_of_revoked {actions : List Action} {final : Server}
    (consistent : Consistent server) (ran : run step server actions = some final) {sessionId : Id}
    (revoked : server.Revoked sessionId) (successor : Id)
    (edge : final.Successor sessionId successor) : server.Successor sessionId successor := by
  induction actions generalizing server with
  | nil =>
      cases ran
      exact edge
  | cons action rest ih =>
      rw [run_cons, Option.bind_eq_some_iff] at ran
      obtain ⟨middle, stepped, ran⟩ := ran
      have commit := step_commit consistent stepped
      have later := ih (consistent_step consistent stepped) ran (commit.keepsRevoked revoked)
      rcases commit.successors_cases with same | ⟨original, other, added, unrevoked, -⟩
      · rw [Server.Successor, same] at later
        exact later
      · rw [Server.Successor, added, List.mem_append, List.mem_singleton] at later
        rcases later with old | new
        · exact old
        · cases new
          exact absurd revoked unrevoked

end

def Phase.rotating : Phase → Option SessionRow
  | .insertSuccessor _ _ session | .commitRotation _ _ session => some session
  | _ => none

/-- The rotation of `task` has failed: the tables are as before, and the session has the row that
the update matched, alive unless it has expired or its device has been revoked meanwhile. -/
structure RotationUndone (server next : Server) (task : Task) (row : SessionRow) : Prop where
  session : next.session = server.session
  device : next.device = server.device
  successors : next.successors = server.successors
  found : next.session task.sessionId = some row
  unrevoked : row.revokedAt = none
  unexpired : task.startedAt < row.expiresAt
  live : ∀ backend now, expired backend row.expiresAt now = false →
    (∀ deviceId device, row.deviceId = some deviceId → next.device deviceId = some device →
      device.revokedAt = none) → (resolveSession next backend task.sessionId now).isSome = true

theorem rotation_undone {server next : Server} {t : TxId} {task : Task} {row : SessionRow}
    (consistent : Consistent server) (opened : server.tasks t = some task)
    (rotating : task.phase.rotating = some row) (failed : step server (.fail t) = some next) :
    RotationUndone server next task row := by
  have ok := consistent.tasks t task opened
  have held : ∃ deviceId, Rotating server task deviceId row := by
    unfold Task.Ok at ok
    cases phase : task.phase with
    | insertSuccessor ttl deviceId session =>
        rw [phase] at rotating ok
        cases rotating
        exact ⟨deviceId, ok.1⟩
    | commitRotation successor deviceId session =>
        rw [phase] at rotating ok
        cases rotating
        exact ⟨deviceId, ok.1⟩
    | _ => simp [Phase.rotating, phase] at rotating
  obtain ⟨deviceId, rotates⟩ := held
  have aborted : next = server.abort t task .failed := by
    simp only [step, opened] at failed
    split at failed
    · cases failed
    · exact (Option.some.inj failed).symm
  subst aborted
  have found : (server.abort t task .failed).session task.sessionId = some row :=
    (abort_session _ _).trans rotates.found
  constructor
  · exact funext (abort_session _)
  · exact funext (abort_device _)
  · rfl
  · exact found
  · exact rotates.unrevoked
  · exact rotates.unexpired
  · intro backend now unexpired deviceUnrevoked
    have device : ((server.abort t task .failed).device deviceId).any
        (fun device => device.revokedAt.isSome) = false := by
      cases present : (server.abort t task .failed).device deviceId with
      | none => rfl
      | some device =>
          have kept := deviceUnrevoked deviceId device rotates.bound present
          simp [kept]
    simp [resolveSession, found, rotates.unrevoked, rotates.bound, device, unexpired]

/-- Whatever the interleaving of statements, a session gets one successor at most and a chain has
one live session at most, a revoked session gets no further successor, and a failed rotation leaves
its session as it was. -/
structure RotationSound (server : Server) : Prop where
  once : (server.successors.map Prod.fst).Nodup
  oneLive : ∀ root first second, server.Refreshed root first → server.Refreshed root second →
    server.Live first → server.Live second → first = second
  noneAfter : ∀ sessionId, server.Revoked sessionId → ∀ actions final,
    run step server actions = some final → ∀ successor,
      final.Successor sessionId successor → server.Successor sessionId successor
  undone : ∀ t task row next, server.tasks t = some task → task.phase.rotating = some row →
    step server (.fail t) = some next → RotationUndone server next task row

theorem session_rotation (actions : List Action) (server : Server)
    (ran : run step Server.initial actions = some server) : RotationSound server := by
  have consistent := consistent_run ran
  have chains := chains_run ran
  constructor
  · exact chains.once
  · intro root first second toFirst toSecond liveFirst liveSecond
    exact chains.one_live toFirst toSecond liveFirst liveSecond
  · intro sessionId revoked actions final ran successor edge
    exact successors_of_revoked consistent ran revoked successor edge
  · intro t task row next opened rotating failed
    exact rotation_undone consistent opened rotating failed

section Samples

def racingRefreshes : List Action :=
  .issueSession "s1" "account" 1000000 ::
    .request 0 .node "s1" 0 (.enrollBearerSession "laptop") ::
    .statement 0 0 "" :: .statement 0 0 "d1" :: .statement 0 0 "" :: .statement 0 0 "" ::
    .request 1 .rust "s1" 0 (.refresh 1000) :: .request 2 .rust "s1" 0 (.refresh 1000) ::
    .statement 1 1 "" :: .statement 2 1 "" :: .statement 1 1 "" :: .statement 1 1 "s2" ::
    .statement 1 1 "" :: List.replicate 2 (.statement 2 2 "")

theorem session_rotation_racing :
    ∃ server, run step Server.initial racingRefreshes = some server ∧
      server.successors = [("s1", "s2")] ∧ RotationSound server := by
  have ran : run step Server.initial racingRefreshes = some _ := run_reached (by decide +kernel)
  exact ⟨_, ran, by decide +kernel, session_rotation racingRefreshes _ ran⟩

end Samples

end ZenPass.Auth
