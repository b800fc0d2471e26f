import ZenPass.Auth.Rotation

set_option autoImplicit false

namespace ZenPass.Auth

open Transition
open Sync (Id Backend Timestamp)

def rebinds (server : Server) : Action → Bool
  | .statement t _ _ =>
      match server.tasks t with
      | none => false
      | some task =>
          match task.phase with
          | .bindSessionToDevice _ =>
              (server.session task.sessionId).any fun row => row.deviceId.isSome
          | _ => false
  | _ => false

def Server.DeviceRevoked (server : Server) (deviceId : Id) : Prop :=
  ∃ device, server.device deviceId = some device ∧ device.revokedAt.isSome = true

def Server.BoundTo (server : Server) (sessionId deviceId : Id) : Prop :=
  ∃ row, server.session sessionId = some row ∧ row.deviceId = some deviceId

structure Bound (server : Server) : Prop where
  bindings : ∀ sessionId deviceId, (sessionId, deviceId) ∈ server.bindings →
    server.BoundTo sessionId deviceId
  successors : ∀ original successor, server.Successor original successor →
    ∃ deviceId, server.BoundTo original deviceId ∧ server.BoundTo successor deviceId

section

variable {server next : Server} {action : Action}

theorem Commit.keepsDeviceOf (commit : Commit server action next)
    (kept : rebinds server action = false) {sessionId deviceId : Id}
    (bound : server.BoundTo sessionId deviceId) : next.BoundTo sessionId deviceId := by
  obtain ⟨row, found, device⟩ := bound
  cases commit with
  | nothing _ _ session => exact ⟨row, by rw [session, found], device⟩
  | deviceCreated _ _ _ _ _ _ session => exact ⟨row, by rw [session, found], device⟩
  | issued issued _ _ _ absent session =>
      have other : sessionId ≠ issued := by
        rintro rfl
        rw [absent] at found
        cases found
      exact ⟨row, by rw [session, Function.update_of_ne other, found], device⟩
  | bound t now uuid task _ newDevice held opened phase there session =>
      by_cases here : sessionId = task.sessionId
      · subst here
        rw [there] at found
        cases found
        simp [rebinds, opened, phase, there, device] at kept
      · exact ⟨row, by rw [session, Function.update_of_ne here, found], device⟩
  | loggedOut _ _ loggedOut held time there session =>
      by_cases here : sessionId = loggedOut
      · subst here
        rw [there] at found
        cases found
        exact ⟨_, (congrFun session _).trans (Function.update_self _ _ _), device⟩
      · exact ⟨row, by rw [session, Function.update_of_ne here, found], device⟩
  | enrolled t now uuid task _ newDevice held checkedAt name opened phase eligible there absent
      session =>
      by_cases here : sessionId = task.sessionId
      · subst here
        rw [there] at found
        cases found
        rw [eligible.unbound] at device
        cases device
      · exact ⟨row, by rw [session, Function.update_of_ne here, found], device⟩
  | rotated t now uuid task _ successor newDevice held expiresAt opened phase unrevoked bound there
      other absent session =>
      have notNew : sessionId ≠ successor := by
        rintro rfl
        rw [absent] at found
        cases found
      by_cases here : sessionId = task.sessionId
      · subst here
        rw [there] at found
        cases found
        refine ⟨task.revoked row, ?_, device⟩
        rw [session, Function.update_of_ne notNew, Function.update_self]
      · exact ⟨row, by rw [session, Function.update_of_ne notNew, Function.update_of_ne here, found],
          device⟩
  | revoked _ _ session =>
      rcases session sessionId with unchanged | ⟨held, time, there, -, revoked⟩
      · exact ⟨row, by rw [unchanged, found], device⟩
      · rw [there] at found
        cases found
        exact ⟨_, revoked, device⟩

theorem Bound.kept (bound : Bound server) (commit : Commit server action next)
    (kept : rebinds server action = false) (bindings : next.bindings = server.bindings)
    (successors : next.successors = server.successors) : Bound next := by
  constructor
  · rw [bindings]
    intro sessionId deviceId member
    exact commit.keepsDeviceOf kept (bound.bindings sessionId deviceId member)
  · intro original successor edge
    rw [Server.Successor, successors] at edge
    obtain ⟨deviceId, first, second⟩ := bound.successors original successor edge
    exact ⟨deviceId, commit.keepsDeviceOf kept first, commit.keepsDeviceOf kept second⟩

theorem Bound.added (bound : Bound server) (commit : Commit server action next)
    (kept : rebinds server action = false) {sessionId deviceId : Id}
    (holds : next.BoundTo sessionId deviceId)
    (bindings : next.bindings = server.bindings ++ [(sessionId, deviceId)])
    (successors : ∀ original successor, next.Successor original successor →
      server.Successor original successor ∨
        (next.BoundTo original deviceId ∧ next.BoundTo successor deviceId)) : Bound next := by
  constructor
  · rw [bindings]
    intro other device member
    rw [List.mem_append, List.mem_singleton] at member
    rcases member with old | new
    · exact commit.keepsDeviceOf kept (bound.bindings other device old)
    · cases new
      exact holds
  · intro original successor edge
    rcases successors original successor edge with old | new
    · obtain ⟨device, first, second⟩ := bound.successors original successor old
      exact ⟨device, commit.keepsDeviceOf kept first, commit.keepsDeviceOf kept second⟩
    · exact ⟨deviceId, new⟩

theorem bound_commit (bound : Bound server) (commit : Commit server action next)
    (kept : rebinds server action = false) : Bound next := by
  have unchanged := bound.kept commit kept
  have grows (sessionId deviceId : Id) (holds : next.BoundTo sessionId deviceId) :=
    bound.added commit kept holds
  cases commit with
  | nothing _ _ _ _ bindings successors => exact unchanged bindings successors
  | issued _ _ _ _ _ _ _ bindings successors => exact unchanged bindings successors
  | deviceCreated _ _ _ _ _ _ _ _ bindings successors => exact unchanged bindings successors
  | loggedOut _ _ _ _ _ _ _ _ bindings successors => exact unchanged bindings successors
  | revoked _ _ _ _ bindings successors => exact unchanged bindings successors
  | bound t now uuid task _ deviceId row opened phase found session _ bindings successors =>
      apply grows task.sessionId deviceId _ bindings
      · intro original successor edge
        rw [Server.Successor, successors] at edge
        exact .inl edge
      · exact ⟨_, (congrFun session _).trans (Function.update_self _ _ _), rfl⟩
  | enrolled t now uuid task _ deviceId row checkedAt name opened phase eligible found absent session
      device bindings successors =>
      apply grows task.sessionId deviceId _ bindings
      · intro original successor edge
        rw [Server.Successor, successors] at edge
        exact .inl edge
      · exact ⟨_, (congrFun session _).trans (Function.update_self _ _ _), rfl⟩
  | rotated t now uuid task _ successor deviceId row expiresAt opened phase unrevoked ofDevice found
      other absent session device bindings successors =>
      have first : next.BoundTo task.sessionId deviceId := by
        refine ⟨task.revoked row, ?_, ofDevice⟩
        rw [session, Function.update_of_ne other.symm, Function.update_self]
      have second : next.BoundTo successor deviceId :=
        ⟨_, (congrFun session _).trans (Function.update_self _ _ _), rfl⟩
      apply grows successor deviceId second bindings
      intro original later edge
      rw [Server.Successor, successors, List.mem_append, List.mem_singleton] at edge
      rcases edge with old | new
      · exact .inl old
      · cases new
        exact .inr ⟨first, second⟩

theorem Bound.refreshed (bound : Bound server) {first second deviceId : Id}
    (refreshed : server.Refreshed first second) (ofDevice : server.BoundTo first deviceId) :
    server.BoundTo second deviceId := by
  induction refreshed with
  | refl => exact ofDevice
  | tail _ edge ih =>
      obtain ⟨other, original, successor⟩ := bound.successors _ _ edge
      obtain ⟨row, found, device⟩ := ih
      obtain ⟨row', found', device'⟩ := original
      rw [found] at found'
      cases found'
      rw [device] at device'
      cases device'
      exact successor

theorem not_live_of_boundTo {sessionId deviceId : Id} (bound : server.BoundTo sessionId deviceId)
    (revoked : server.DeviceRevoked deviceId) : ¬ server.Live sessionId := by
  rintro ⟨backend, now, resolved⟩
  obtain ⟨row, found, ofDevice⟩ := bound
  obtain ⟨device, present, isRevoked⟩ := revoked
  simp [resolveSession, found, ofDevice, present, isRevoked] at resolved

theorem deviceRevoked_commit (commit : Commit server action next) {deviceId : Id}
    (revoked : server.DeviceRevoked deviceId) : next.DeviceRevoked deviceId := by
  obtain ⟨device, found, isRevoked⟩ := revoked
  obtain ⟨after, found', -, -, keeps⟩ := commit.keepsDevice found
  exact ⟨after, found', keeps isRevoked⟩

theorem deviceRevoked_run {actions : List Action} {final : Server} (consistent : Consistent server)
    {deviceId : Id} (revoked : server.DeviceRevoked deviceId)
    (ran : run step server actions = some final) : final.DeviceRevoked deviceId := by
  have preserved : ∀ server action next, Consistent server ∧ server.DeviceRevoked deviceId →
      step server action = some next → Consistent next ∧ next.DeviceRevoked deviceId := by
    intro server action next held stepped
    exact ⟨consistent_step held.1 stepped, deviceRevoked_commit (step_commit held.1 stepped) held.2⟩
  exact (run_preserves preserved ⟨consistent, revoked⟩ ran).2

theorem bound_run {actions : List Action} {final : Server}
    (kept : Every step (fun server action => rebinds server action = false) Server.initial actions)
    (ran : run step Server.initial actions = some final) : Bound final := by
  have start : Consistent Server.initial ∧ Bound Server.initial := by
    refine ⟨consistent_initial, ?_, ?_⟩
    · intro sessionId deviceId nothing
      cases nothing
    · intro original successor nothing
      cases nothing
  have preserved : ∀ server action next, Consistent server ∧ Bound server →
      rebinds server action = false → step server action = some next →
        Consistent next ∧ Bound next := by
    intro server action next held kept stepped
    exact ⟨consistent_step held.1 stepped, bound_commit held.2 (step_commit held.1 stepped) kept⟩
  exact (run_invariant preserved start kept ran).2

end

/-- No session that has ever been bound to the device, and none refreshed from one, resolves. -/
def Server.RevocationFinal (server : Server) (deviceId : Id) : Prop :=
  ∀ sessionId, (sessionId, deviceId) ∈ server.bindings → ∀ refreshed,
    server.Refreshed sessionId refreshed → ¬ server.Live refreshed

/-- In every interleaving in which no legacy binding replaces another binding. -/
theorem device_revocation_final (before after : List Action) (middle final : Server)
    (kept : Every step (fun server action => rebinds server action = false) Server.initial
      (before ++ after))
    (ranBefore : run step Server.initial before = some middle)
    (ranAfter : run step middle after = some final) (deviceId : Id)
    (revoked : middle.DeviceRevoked deviceId) : final.RevocationFinal deviceId := by
  have ran : run step Server.initial (before ++ after) = some final := by
    rw [run_append, ranBefore]
    exact ranAfter
  have bound := bound_run kept ran
  have still := deviceRevoked_run (consistent_run ranBefore) revoked ranAfter
  intro sessionId everBound refreshed isRefreshed
  exact not_live_of_boundTo (bound.refreshed isRefreshed (bound.bindings _ _ everBound)) still

section Samples

def registerDevice (t : TxId) (sessionId deviceId : Id) : List Action :=
  [.request t .node sessionId 0 (.createDevice deviceId [1]), .statement t 0 deviceId,
    .statement t 0 ""]

def revokeBy (t : TxId) (sessionId deviceId : Id) (boundSessions : Nat) : List Action :=
  .request t .node sessionId 0 (.revokeDevice deviceId) ::
    List.replicate (boundSessions + 4) (.statement t 1 "")

def twoLogins : List Action :=
  [.issueSession "s1" "account" 1000000, .issueSession "s2" "account" 1000000]

def boundOnce : List Action :=
  twoLogins ++ registerDevice 0 "s1" "d1" ++ revokeBy 1 "s2" "d1" 1

theorem device_revocation_final_boundOnce :
    ∃ final, run step Server.initial boundOnce = some final ∧
      ("s1", "d1") ∈ final.bindings ∧ final.RevocationFinal "d1" := by
  have ran : run step Server.initial boundOnce = some _ := run_reached (by decide +kernel)
  refine ⟨_, ran, by decide +kernel, ?_⟩
  refine device_revocation_final boundOnce [] _ _ (by decide +kernel) ran rfl "d1" ?_
  exact ⟨⟨"account", "d1", some [1], .legacyPublicKey, some 1⟩, by decide +kernel, rfl⟩

def boundTwice : List Action :=
  twoLogins ++ registerDevice 0 "s1" "d1" ++ registerDevice 1 "s1" "d2" ++ revokeBy 2 "s2" "d1" 0

/-- The session is no longer found through the first device, and goes on. -/
theorem rebound_session_outlives_device :
    ¬ ∀ (before after : List Action) (middle final : Server),
      run step Server.initial before = some middle → run step middle after = some final →
        ∀ deviceId, middle.DeviceRevoked deviceId → final.RevocationFinal deviceId := by
  intro always
  have ran : run step Server.initial boundTwice = some _ := run_reached (by decide +kernel)
  have final := always boundTwice [] _ _ ran rfl "d1"
    ⟨⟨"account", "d1", some [1], .legacyPublicKey, some 1⟩, by decide +kernel, rfl⟩
  exact final "s1" (by decide +kernel) "s1" .refl ⟨.node, 2, by decide +kernel⟩

end Samples

end ZenPass.Auth
