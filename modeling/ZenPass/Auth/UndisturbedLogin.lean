import ZenPass.Auth.AuthClient
import ZenPass.Auth.LoginParity

set_option autoImplicit false

namespace ZenPass.Auth

open Wire Transition
open Sync (Id Backend)

def CallPhase.relies : CallPhase → Bool
  | .posted .loginFinish _ | .waiting (.loginStart _) _ | .waiting .loginFinish _ => true
  | .posted (.registerStart _) _ | .posted .registerFinish _ | .posted (.loginStart _) _ => false
  | .waiting (.registerStart _) _ | .waiting .registerFinish _ => false
  | .registered | .session .. | .rejected => false

def CallPhase.logsIn : CallPhase → Bool
  | .posted (.loginStart _) _ | .posted .loginFinish _ => true
  | .posted (.registerStart _) _ | .posted .registerFinish _ | .waiting .. => false
  | .registered | .session .. | .rejected => false

def CallPhase.request : CallPhase → Option RequestId
  | .waiting _ id => some id
  | .posted .. | .registered | .session .. | .rejected => none

def LoginPhase.counts : LoginPhase → Bool
  | .checkAndIncrement .. => true
  | .ensureAccount .. | .ready .. | .getCredentialRecord _ | .loginStart .. => false
  | .loginFinish .. | .issueSession .. | .answered _ | .dropped => false

def LoginServer.Live (server : LoginServer) (accountId : Id) (now : Nat) : Prop :=
  ∀ entry, server.states accountId = some entry → now < entry.expiresAt

namespace AuthClients

def InTime (clients : AuthClients) (call : CallId) (accountId : Id) (now : Nat) : Prop :=
  (∃ known, clients.calls call = some known ∧ known.phase.relies = true) →
    clients.auth.logins.server.Live accountId now

/-- The conditions on a step, all of them on the state before it: nobody else logs in to the account,
the process goes on, the requests of the call are served and admitted, and in time, and no login
state of the account is left when its first one comes. -/
def Undisturbed (config : LoginConfig) (call : CallId) (accountId : Id) (clients : AuthClients) :
    ClientAction → Prop
  | .networkError other => other ≠ call
  | .deliver other _ admissionKey now =>
      clients.InTime call accountId now ∧ ∀ known ∈ clients.calls other,
        if other = call then
          clients.auth.logins.server.buckets.allow admissionKey now config.admissionWindow
            config.admissionMax = true ∧
          (known.phase.relies = false →
            clients.auth.logins.server.states.hasPending accountId now = false)
        else known.accountId = accountId → known.phase.logsIn = false
  | .server (.arriveLogin _ request now) =>
      clients.InTime call accountId now ∧
        ∀ login, readLogin config.backend request.body = .ok login → login.accountId ≠ accountId
  | .server (.advanceLogin id surroundings) =>
      clients.InTime call accountId surroundings.now ∧
        ∀ known ∈ clients.calls call, known.phase.request = some id →
          surroundings.failing = false ∧
          ∀ phase ∈ clients.auth.logins.phases id, phase.counts = true →
            (clients.auth.logins.server.sweepAll surroundings.sweeps).withinLimit accountId
              surroundings.now config.rateLimitWindow config.rateLimitMax = true
  | .server .restart => False
  | .server (.arriveRegister ..) | .server (.advanceRegister ..) => True
  | .register .. | .login .. | .receive .. => True

end AuthClients

/-- The rows of the account are still there, and in time its login state. -/
structure Spares (accountId : Id) (inTime : Prop) (before after : LoginServer) : Prop where
  states : inTime → after.states accountId = before.states accountId
  credentials : ∀ record, before.credentials accountId = some record →
    after.credentials accountId = some record
  accounts : (before.credentials accountId).isSome = true →
    (before.accounts accountId).isSome = true → (after.accounts accountId).isSome = true

section Spares

variable {config : LoginConfig} {binding : OpaqueBinding} {registration : RegistrationBinding}
  {accountId : Id} {now : Nat} {inTime inTime' : Prop} {server before after later : LoginServer}

theorem spares_refl : Spares accountId inTime server server :=
  ⟨fun _ => rfl, fun _ here => here, fun _ here => here⟩

theorem Spares.trans (first : Spares accountId inTime before after)
    (second : Spares accountId inTime' after later) (implies : inTime → inTime') :
    Spares accountId inTime before later where
  states here := (second.states (implies here)).trans (first.states here)
  credentials record here := second.credentials record (first.credentials record here)
  accounts registered here := by
    obtain ⟨record, found⟩ := Option.isSome_iff_exists.mp registered
    have kept := first.credentials record found
    exact second.accounts (by rw [kept]; rfl) (first.accounts registered here)

theorem evictExpired_live (live : server.Live accountId now) :
    server.states.evictExpired now accountId = server.states accountId := by
  rw [LoginStates.evictExpired]
  cases found : server.states accountId with
  | none => rfl
  | some entry => simp [live entry found]

theorem spares_evict (buckets : Buckets) : Spares accountId (server.Live accountId now) server
    { server with states := server.states.evictExpired now, buckets } :=
  ⟨evictExpired_live, fun _ here => here, fun _ here => here⟩

theorem spares_ensureAccount (asked : Id) (at_ : Nat) :
    Spares accountId inTime server (server.ensureAccount asked at_) where
  states _ := rfl
  credentials _ here := here
  accounts _ here := by
    by_cases same : accountId = asked
    · rw [LoginServer.ensureAccount, same]
      dsimp only
      rw [Function.update_self]
      rfl
    · rw [LoginServer.ensureAccount]
      dsimp only
      rwa [Function.update_of_ne same]

theorem spares_increment (asked : Id) (at_ window : Nat) :
    Spares accountId inTime server (server.increment asked at_ window) :=
  ⟨fun _ => rfl, fun _ here => here, fun _ here => here⟩

theorem spares_set {asked : Id} (apart : accountId ≠ asked) (pending : PendingLogin)
    (storedBy : RequestId) (storedAt ttl : Nat) :
    Spares accountId (server.Live accountId now) server
      { server with states := server.states.set asked pending storedBy now storedAt ttl } where
  states live := by
    dsimp only
    rw [LoginStates.set, Function.update_of_ne apart, evictExpired_live live]
  credentials _ here := here
  accounts _ here := here

theorem spares_afterTake {asked : Id} (apart : accountId ≠ asked) :
    Spares accountId (server.Live accountId now) server
      { server with states := server.states.afterTake asked now } where
  states live := by
    dsimp only
    rw [LoginStates.afterTake, Function.update_of_ne apart, evictExpired_live live]
  credentials _ here := here
  accounts _ here := here

theorem spares_saveCredential (asked : Id) (record : Bytes) :
    Spares accountId inTime server (server.saveCredentialRecordIfAbsent asked record) where
  states _ := rfl
  credentials known here := by
    by_cases same : accountId = asked
    · rw [LoginServer.saveCredentialRecordIfAbsent, ← same]
      dsimp only
      rw [Function.update_self, here]
      rfl
    · rw [LoginServer.saveCredentialRecordIfAbsent]
      dsimp only
      rwa [Function.update_of_ne same]
  accounts _ here := here

theorem spares_sweep (sweep : Sweep) : Spares accountId inTime server (server.sweep sweep) where
  states _ := congrFun (sweep_states sweep) accountId
  credentials _ here := (congrFun (sweep_credentials sweep) accountId).trans here
  accounts registered here := by
    cases sweep with
    | rateLimits cutoff => exact here
    | accounts cutoff referenced =>
        obtain ⟨record, found⟩ := Option.isSome_iff_exists.mp registered
        obtain ⟨createdAt, there⟩ := Option.isSome_iff_exists.mp here
        refine Option.isSome_iff_exists.mpr ⟨createdAt, Option.filter_eq_some_iff.mpr ⟨there, ?_⟩⟩
        simp [LoginServer.swept, found]

theorem spares_sweepAll (sweeps : List Sweep) :
    Spares accountId inTime server (server.sweepAll sweeps) := by
  induction sweeps generalizing server with
  | nil => exact spares_refl
  | cons sweep rest ih =>
      exact (spares_sweep sweep).trans ih id

theorem perform_spares {id : RequestId} {surroundings : Surroundings} {phase : LoginPhase}
    (other : ∀ login, phase.login = some login → accountId ≠ login.accountId) :
    Spares accountId (server.Live accountId surroundings.now) server
      (perform config binding id surroundings server phase).server := by
  cases phase with
  | ensureAccount login hasPending =>
      simp only [perform]
      split
      · exact spares_refl
      · exact spares_ensureAccount _ _
  | checkAndIncrement login hasPending =>
      simp only [perform]
      split
      · exact spares_refl
      · exact spares_increment _ _ _
  | ready login hasPending =>
      have apart := other login rfl
      simp only [perform]
      split
      · exact spares_refl
      · split
        · unfold takePending
          dsimp only
          split
          · exact spares_afterTake apart
          · split
            · exact spares_afterTake apart
            · split
              · exact spares_afterTake apart
              · exact spares_afterTake apart
        · exact spares_refl
  | getCredentialRecord login =>
      simp only [perform]
      split
      · exact spares_refl
      · exact spares_refl
  | loginStart login credentialRecord =>
      have apart := other login rfl
      cases credentialRecord with
      | none => exact spares_set apart _ _ _ _
      | some record =>
          simp only [perform]
          split
          · exact spares_refl
          · exact spares_set apart _ _ _ _
  | loginFinish login stateBytes storedBy => exact spares_refl
  | issueSession login storedBy =>
      simp only [perform]
      split
      · exact spares_refl
      · exact spares_refl
  | answered answer => exact spares_refl
  | dropped => exact spares_refl

theorem advance_spares {id : RequestId} {surroundings : Surroundings} {phase : LoginPhase}
    (other : ∀ login, phase.login = some login → accountId ≠ login.accountId) :
    Spares accountId (server.Live accountId surroundings.now) server
      (advance config binding id surroundings server phase).server := by
  refine (spares_sweepAll surroundings.sweeps).trans (perform_spares other) ?_
  rw [LoginServer.Live, LoginServer.Live, sweepAll_states]
  exact fun live => live

theorem arrive_spares (request : LoginRequest) :
    Spares accountId (server.Live accountId now) server
      (arrive config request now server).server := by
  unfold arrive
  split
  · exact spares_refl
  · dsimp only
    split
    · exact spares_evict _
    · split
      · exact spares_evict _
      · exact spares_evict _

theorem arriveRegister_spares (request : RegisterRequest) {registerLimits : Id → Windows} :
    Spares accountId inTime server
      (arriveRegister config request now server registerLimits).server := by
  unfold arriveRegister
  split
  · exact spares_refl
  · dsimp only
    split
    · exact ⟨fun _ => rfl, fun _ here => here, fun _ here => here⟩
    · exact ⟨fun _ => rfl, fun _ here => here, fun _ here => here⟩

theorem advance_login {id : RequestId} {surroundings : Surroundings} {phase : LoginPhase}
    {login : Login}
    (asks : (advance config binding id surroundings server phase).phase.login = some login) :
    phase.login = some login := by
  have confined := @perform_confined config binding (server.sweepAll surroundings.sweeps)
    (fun _ => []) id surroundings phase
  exact confined.login login asks

theorem performRegister_spares {surroundings : Surroundings} {registerLimits : Id → Windows}
    {phase : RegisterPhase} :
    Spares accountId inTime server
      (performRegister config registration surroundings server registerLimits phase).server := by
  cases phase with
  | registrationStep login =>
      simp only [performRegister]
      split
      · exact spares_refl
      · split
        · exact spares_refl
        · exact spares_refl
  | ensureAccount login step =>
      simp only [performRegister]
      split
      · exact spares_refl
      · exact spares_ensureAccount _ _
  | checkAndIncrement login step =>
      simp only [performRegister]
      split
      · exact spares_refl
      · exact spares_refl
  | saveCredentialRecord login record =>
      simp only [performRegister]
      split
      · exact spares_refl
      · exact spares_saveCredential _ _
  | answered answer => exact spares_refl
  | dropped => exact spares_refl

end Spares

def Holds (binding : OpaqueBinding) (accountId : Id) (ke3 : Bytes) (server : LoginServer) : Prop :=
  ∃ serverState expiresAt storedBy,
    server.states accountId = some ⟨.real serverState, expiresAt, storedBy⟩ ∧
      binding.loginFinish serverState ke3 opaqueContext = true

def FirstLeg (binding : OpaqueBinding) (accountId : Id) (record ke1 : Bytes) (id : RequestId)
    (server : LoginServer) : LoginPhase → Prop
  | .ensureAccount login hasPending | .ready login hasPending =>
      login = ⟨accountId, ke1⟩ ∧ hasPending = false
  | .checkAndIncrement login hasPending =>
      login = ⟨accountId, ke1⟩ ∧ hasPending = false ∧ (server.accounts accountId).isSome = true
  | .getCredentialRecord login => login = ⟨accountId, ke1⟩
  | .loginStart login credentialRecord =>
      login = ⟨accountId, ke1⟩ ∧ credentialRecord = some record
  | .answered (.message ke2) => ∃ serverState expiresAt random,
      server.states accountId = some ⟨.real serverState, expiresAt, id⟩ ∧
        binding.loginStart random record accountId ke1 opaqueContext = some (serverState, ke2)
  | _ => False

def SecondLeg (binding : OpaqueBinding) (accountId : Id) (ke3 : Bytes) (server : LoginServer) :
    LoginPhase → Prop
  | .ensureAccount login hasPending | .ready login hasPending =>
      login = ⟨accountId, ke3⟩ ∧ hasPending = true ∧ Holds binding accountId ke3 server
  | .checkAndIncrement login hasPending =>
      login = ⟨accountId, ke3⟩ ∧ hasPending = true ∧ Holds binding accountId ke3 server ∧
        (server.accounts accountId).isSome = true
  | .loginFinish login stateBytes _ =>
      login = ⟨accountId, ke3⟩ ∧ binding.loginFinish stateBytes ke3 opaqueContext = true
  | .issueSession login _ => login = ⟨accountId, ke3⟩
  | .answered (.session ..) => True
  | _ => False

section Legs

variable {config : LoginConfig} {binding : OpaqueBinding} {registration : RegistrationBinding}
  {client : OpaqueClient} {accountId : Id} {now : Nat} {inTime : Prop} {server after : LoginServer}
  {record ke1 ke3 : Bytes} {id : RequestId} {phase : LoginPhase}

theorem Holds.spared (holds : Holds binding accountId ke3 server)
    (spares : Spares accountId inTime server after) (here : inTime) :
    Holds binding accountId ke3 after := by
  obtain ⟨serverState, expiresAt, storedBy, found, accepted⟩ := holds
  exact ⟨serverState, expiresAt, storedBy, (spares.states here).trans found, accepted⟩

theorem FirstLeg.spared (first : FirstLeg binding accountId record ke1 id server phase)
    (there : server.credentials accountId = some record)
    (spares : Spares accountId inTime server after) (here : inTime) :
    FirstLeg binding accountId record ke1 id after phase := by
  have registered : (server.credentials accountId).isSome = true := by rw [there]; rfl
  cases phase with
  | ensureAccount | ready | getCredentialRecord | loginStart => exact first
  | checkAndIncrement login hasPending =>
      exact ⟨first.1, first.2.1, spares.accounts registered first.2.2⟩
  | answered answer =>
      cases answer with
      | message ke2 =>
          obtain ⟨serverState, expiresAt, random, found, started⟩ := first
          exact ⟨serverState, expiresAt, random, (spares.states here).trans found, started⟩
      | session | unauthorized | refused | failed => exact first
  | loginFinish | issueSession | dropped => exact first

theorem SecondLeg.spared (second : SecondLeg binding accountId ke3 server phase)
    (there : server.credentials accountId = some record)
    (spares : Spares accountId inTime server after) (here : inTime) :
    SecondLeg binding accountId ke3 after phase := by
  have registered : (server.credentials accountId).isSome = true := by rw [there]; rfl
  cases phase with
  | ensureAccount | ready => exact ⟨second.1, second.2.1, second.2.2.spared spares here⟩
  | checkAndIncrement login hasPending =>
      exact ⟨second.1, second.2.1, second.2.2.1.spared spares here,
        spares.accounts registered second.2.2.2⟩
  | answered answer =>
      cases answer with
      | message | session | unauthorized | refused | failed => exact second
  | getCredentialRecord | loginStart | loginFinish | issueSession | dropped => exact second

theorem firstLeg_perform {surroundings : Surroundings}
    (starts : ∃ serverState ke2, binding.loginStart surroundings.random record accountId ke1
      opaqueContext = some (serverState, ke2))
    (there : server.credentials accountId = some record)
    (served : surroundings.failing = false)
    (within : ∀ login hasPending, phase = .checkAndIncrement login hasPending →
      server.withinLimit accountId surroundings.now config.rateLimitWindow config.rateLimitMax = true)
    (first : FirstLeg binding accountId record ke1 id server phase) :
    FirstLeg binding accountId record ke1 id
      (perform config binding id surroundings server phase).server
      (perform config binding id surroundings server phase).phase ∧
    (perform config binding id surroundings server phase).phase.left ≤ phase.left - 1 := by
  cases phase with
  | ensureAccount login hasPending =>
      obtain ⟨rfl, rfl⟩ := first
      simp only [perform, served, Bool.false_eq_true, if_false]
      refine ⟨⟨rfl, rfl, ?_⟩, Nat.le_refl 4⟩
      simp [LoginServer.ensureAccount]
  | checkAndIncrement login hasPending =>
      obtain ⟨rfl, rfl, row⟩ := first
      have absent : (server.accounts accountId).isNone = false := by
        rw [Option.isNone_eq_false_iff]
        exact row
      simp only [perform, served, absent, Bool.or_self, Bool.false_eq_true, if_false,
        within _ _ rfl, if_true]
      exact ⟨⟨rfl, rfl⟩, Nat.le_refl 3⟩
  | ready login hasPending =>
      obtain ⟨rfl, rfl⟩ := first
      simp only [perform, served, Bool.false_and, Bool.false_eq_true, if_false]
      exact ⟨rfl, Nat.le_refl 2⟩
  | getCredentialRecord login =>
      cases (show login = ⟨accountId, ke1⟩ from first)
      simp only [perform, served, Bool.false_eq_true, if_false]
      exact ⟨⟨rfl, there⟩, Nat.le_refl 1⟩
  | loginStart login credentialRecord =>
      obtain ⟨rfl, rfl⟩ := first
      obtain ⟨serverState, ke2, started⟩ := starts
      simp only [perform, started]
      refine ⟨?_, Nat.le_refl 0⟩
      exact ⟨serverState, _, surroundings.random, LoginStates.set_self _ _ _ _, started⟩
  | answered answer => exact ⟨first, Nat.le_refl 0⟩
  | loginFinish | issueSession | dropped => cases first

theorem secondLeg_perform {surroundings : Surroundings} (served : surroundings.failing = false)
    (within : ∀ login hasPending, phase = .checkAndIncrement login hasPending →
      server.withinLimit accountId surroundings.now config.rateLimitWindow config.rateLimitMax = true)
    (live : server.Live accountId surroundings.now)
    (second : SecondLeg binding accountId ke3 server phase) :
    SecondLeg binding accountId ke3
      (perform config binding id surroundings server phase).server
      (perform config binding id surroundings server phase).phase ∧
    (perform config binding id surroundings server phase).phase.left ≤ phase.left - 1 := by
  cases phase with
  | ensureAccount login hasPending =>
      obtain ⟨rfl, rfl, holds⟩ := second
      simp only [perform, served, Bool.false_eq_true, if_false]
      refine ⟨⟨rfl, rfl, holds, ?_⟩, Nat.le_refl 4⟩
      simp [LoginServer.ensureAccount]
  | checkAndIncrement login hasPending =>
      obtain ⟨rfl, rfl, holds, row⟩ := second
      have absent : (server.accounts accountId).isNone = false := by
        rw [Option.isNone_eq_false_iff]
        exact row
      simp only [perform, served, absent, Bool.or_self, Bool.false_eq_true, if_false,
        within _ _ rfl, if_true]
      exact ⟨⟨rfl, rfl, holds⟩, Nat.le_refl 3⟩
  | ready login hasPending =>
      obtain ⟨rfl, rfl, serverState, expiresAt, storedBy, found, accepted⟩ := second
      have pending : server.states.pendingAt accountId surroundings.now =
          some ⟨.real serverState, expiresAt, storedBy⟩ := by
        rw [LoginStates.pendingAt, evictExpired_live live, found]
      simp only [perform, served, Bool.false_and, Bool.false_eq_true, if_false, if_true,
        takePending, pending]
      cases config.backend with
      | node =>
          simp only [finishLogin, accepted, if_true]
          exact ⟨rfl, (by decide : 1 ≤ 2)⟩
      | rust => exact ⟨⟨rfl, accepted⟩, Nat.le_refl 2⟩
  | loginFinish login stateBytes storedBy =>
      obtain ⟨rfl, accepted⟩ := second
      simp only [perform, finishLogin, accepted, if_true]
      exact ⟨rfl, Nat.le_refl 1⟩
  | issueSession login storedBy =>
      cases (show login = ⟨accountId, ke3⟩ from second)
      simp only [perform, served, Bool.false_eq_true, if_false]
      exact ⟨trivial, Nat.le_refl 0⟩
  | answered answer => exact ⟨second, Nat.le_refl 0⟩
  | getCredentialRecord | loginStart | dropped => cases second

theorem readLogin_encoded (backend : Backend) (valid : isValidAccountId accountId = true)
    (message : Bytes) :
    readLogin backend (.fields (some accountId) (some (encodeB64 message))) =
      .ok ⟨accountId, message⟩ := by
  simp [readLogin, decodeB64_encodeB64, valid]

theorem readLogin_asked {backend : Backend} {asked : Id} {message : Bytes} {login : Login}
    (read : readLogin backend (.fields (some asked) (some (encodeB64 message))) = .ok login) :
    login.accountId = asked := by
  simp only [readLogin, decodeB64_encodeB64] at read
  split at read
  · cases read
    rfl
  · cases read

theorem firstLeg_arrive {admissionKey : String} (valid : isValidAccountId accountId = true)
    (length : ke1.length = ke1Length)
    (allowed : server.buckets.allow admissionKey now config.admissionWindow config.admissionMax =
      true)
    (nonePending : server.states.hasPending accountId now = false) :
    FirstLeg binding accountId record ke1 id
      (arrive config ⟨admissionKey, .fields (some accountId) (some (encodeB64 ke1))⟩ now
        server).server
      (arrive config ⟨admissionKey, .fields (some accountId) (some (encodeB64 ke1))⟩ now
        server).phase := by
  simp only [arrive, readLogin_encoded _ valid, nonePending, Bool.not_false, length, ne_eq,
    not_true_eq_false, decide_false, Bool.and_false, Bool.false_eq_true, if_false, allowed, if_true]
  exact ⟨rfl, rfl⟩

theorem secondLeg_arrive {admissionKey : String} (valid : isValidAccountId accountId = true)
    (allowed : server.buckets.allow admissionKey now config.admissionWindow config.admissionMax =
      true)
    (live : server.Live accountId now) (holds : Holds binding accountId ke3 server) :
    SecondLeg binding accountId ke3
      (arrive config ⟨admissionKey, .fields (some accountId) (some (encodeB64 ke3))⟩ now
        server).server
      (arrive config ⟨admissionKey, .fields (some accountId) (some (encodeB64 ke3))⟩ now
        server).phase := by
  obtain ⟨serverState, expiresAt, storedBy, found, accepted⟩ := holds
  have evicted := evictExpired_live live
  have pending : server.states.hasPending accountId now = true := by
    rw [LoginStates.hasPending, evicted, found]
    rfl
  simp only [arrive, readLogin_encoded _ valid, pending, Bool.not_true, Bool.false_and,
    Bool.false_eq_true, if_false, allowed, if_true]
  exact ⟨rfl, rfl, serverState, expiresAt, storedBy, evicted.trans found, accepted⟩

end Legs

namespace AuthSystem

def Alone (accountId : Id) (mine : Option RequestId) (system : AuthSystem) : Prop :=
  ∀ id phase login, system.logins.phases id = some phase → phase.login = some login →
    login.accountId = accountId → mine = some id

end AuthSystem

def AuthAction.InTime (accountId : Id) (server : LoginServer) : AuthAction → Prop
  | .arriveLogin _ _ now => server.Live accountId now
  | .advanceLogin _ surroundings => server.Live accountId surroundings.now
  | .arriveRegister .. | .advanceRegister .. => True
  | .restart => False

def AuthAction.Apart (backend : Backend) (accountId : Id) (mine : Option RequestId) :
    AuthAction → Prop
  | .arriveLogin _ request _ =>
      ∀ login, readLogin backend request.body = .ok login → login.accountId ≠ accountId
  | .advanceLogin id _ => mine ≠ some id
  | .arriveRegister .. | .advanceRegister .. => True
  | .restart => False

namespace AuthSystem

variable {config : LoginConfig} {binding : OpaqueBinding} {registration : RegistrationBinding}
  {accountId : Id} {mine : Option RequestId} {system next : AuthSystem}

structure Serves (system : AuthSystem) (id : RequestId) (server : LoginServer) (phase : LoginPhase)
    (next : AuthSystem) : Prop where
  server : next.logins.server = server
  mine : next.logins.phases id = some phase
  others : ∀ other, other ≠ id → next.logins.phases other = system.logins.phases other
  credentials : next.credentials = system.credentials

theorem arriveLogin_step {id : RequestId} {request : LoginRequest} {now : Nat}
    (stepped : system.step config binding registration (.arriveLogin id request now) = some next) :
    system.logins.phases id = none ∧
      Serves system id (arrive config request now system.logins.server).server
        (arrive config request now system.logins.server).phase next := by
  simp only [step, login, Option.map_eq_some_iff] at stepped
  obtain ⟨logins, stepped, rfl⟩ := stepped
  have same := login_credentials stepped (by rintro _ _ ⟨⟩)
  simp only [LoginSystem.step] at stepped
  split at stepped
  · cases stepped
  next fresh =>
    cases stepped
    exact ⟨fresh, rfl, Function.update_self .., fun _ apart => Function.update_of_ne apart .., same⟩

theorem advanceLogin_step {id : RequestId} {surroundings : Surroundings}
    (stepped : system.step config binding registration (.advanceLogin id surroundings) =
      some next) :
    ∃ phase, system.logins.phases id = some phase ∧
      Serves system id (advance config binding id surroundings system.logins.server phase).server
        (advance config binding id surroundings system.logins.server phase).phase next := by
  simp only [step, login, Option.map_eq_some_iff] at stepped
  obtain ⟨logins, stepped, rfl⟩ := stepped
  have same := login_credentials stepped (by rintro _ _ ⟨⟩)
  simp only [LoginSystem.step, Option.map_eq_some_iff] at stepped
  obtain ⟨phase, found, rfl⟩ := stepped
  refine ⟨phase, found, rfl, Function.update_self .., ?_, same⟩
  exact fun _ apart => Function.update_of_ne apart ..

theorem Alone.served {id : RequestId} {server : LoginServer} {phase : LoginPhase}
    {later : Option RequestId} (alone : system.Alone accountId mine)
    (serves : Serves system id server phase next)
    (others : ∀ other, other ≠ id → mine = some other → later = some other)
    (self : ∀ login, phase.login = some login → login.accountId = accountId → later = some id) :
    next.Alone accountId later := by
  intro other phase' login found asks same
  by_cases this : other = id
  · rw [this, serves.mine, Option.some.injEq] at found
    subst found
    exact this ▸ self login asks same
  · rw [serves.others other this] at found
    exact others other this (alone other phase' login found asks same)

theorem apart_step {action : AuthAction}
    (stepped : system.step config binding registration action = some next)
    (apart : action.Apart config.backend accountId mine) (alone : system.Alone accountId mine)
    (open' : ∀ id, mine = some id → ∃ phase, system.logins.phases id = some phase) :
    (∀ id, mine = some id → next.logins.phases id = system.logins.phases id) ∧
      next.Alone accountId mine ∧
      Spares accountId (action.InTime accountId system.logins.server) system.logins.server
        next.logins.server := by
  cases action with
  | arriveLogin id request now =>
      obtain ⟨fresh, serves⟩ := arriveLogin_step stepped
      refine ⟨?_, alone.served serves (fun _ _ same => same) ?_, ?_⟩
      · rintro other rfl
        obtain ⟨phase, found⟩ := open' other rfl
        refine serves.others other ?_
        rintro rfl
        cases fresh.symm.trans found
      · intro login asks same
        rcases (arrive_cases config request now system.logins.server).2.2.2 with
          ⟨answer, answered⟩ | ⟨read, hasPending, ok, entered⟩
        · rw [answered] at asks
          cases asks
        · rw [entered] at asks
          obtain rfl : read = login := Option.some.inj asks
          exact absurd same (apart read ok)
      · rw [serves.server]
        exact arrive_spares request
  | advanceLogin id surroundings =>
      obtain ⟨phase, found, serves⟩ := advanceLogin_step stepped
      have others : ∀ login, phase.login = some login → accountId ≠ login.accountId := by
        rintro login asks rfl
        exact apart (alone id phase login found asks rfl)
      refine ⟨?_, alone.served serves (fun _ _ same => same) ?_, ?_⟩
      · rintro other rfl
        exact serves.others other fun same => apart (congrArg some same)
      · intro login asks same
        exact absurd same.symm (others login (advance_login asks))
      · rw [serves.server]
        exact advance_spares others
  | arriveRegister id request now =>
      simp only [step] at stepped
      split at stepped
      · cases stepped
      · cases stepped
        exact ⟨fun _ _ => rfl, alone, arriveRegister_spares request⟩
  | advanceRegister id surroundings =>
      simp only [step, Option.map_eq_some_iff] at stepped
      obtain ⟨phase, -, rfl⟩ := stepped
      refine ⟨fun _ _ => rfl, alone, ?_⟩
      exact (spares_sweepAll surroundings.sweeps).trans performRegister_spares fun here => here
  | restart => cases apart

end AuthSystem

def CallPhase.settled : CallPhase → Bool
  | .registered | .session .. | .rejected => true
  | .posted .. | .waiting .. => false

/-- A login call that goes well, and a bound on the moves it has left. -/
inductive GoesWell (binding : OpaqueBinding) (client : OpaqueClient) (accountId : Id)
    (password entered record : Bytes) (auth : AuthSystem) : CallPhase → Nat → Prop where
  | posted (random : Nat → UInt8) (state ke1 : Bytes)
      (started : client.clientLoginStart random entered = some (ke1, state)) :
      GoesWell binding client accountId password entered record auth
        (.posted (.loginStart state) ke1) 14
  | first (random : Nat → UInt8) (state ke1 : Bytes) (id : RequestId) (phase : LoginPhase)
      (started : client.clientLoginStart random entered = some (ke1, state))
      (found : auth.logins.phases id = some phase)
      (leg : FirstLeg binding accountId record ke1 id auth.logins.server phase) :
      GoesWell binding client accountId password entered record auth
        (.waiting (.loginStart state) id) (8 + phase.left)
  | finishing (ke3 : Bytes) (agreed : entered = password)
      (holds : Holds binding accountId ke3 auth.logins.server) :
      GoesWell binding client accountId password entered record auth (.posted .loginFinish ke3) 7
  | second (ke3 : Bytes) (id : RequestId) (phase : LoginPhase) (agreed : entered = password)
      (found : auth.logins.phases id = some phase)
      (leg : SecondLeg binding accountId ke3 auth.logins.server phase) :
      GoesWell binding client accountId password entered record auth (.waiting .loginFinish id)
        (1 + phase.left)
  | session (accessToken : Bytes) (expiresAt : Nat) (agreed : entered = password) :
      GoesWell binding client accountId password entered record auth
        (.session accessToken expiresAt) 0
  | rejected (differs : entered ≠ password) :
      GoesWell binding client accountId password entered record auth .rejected 0

section GoesWell

variable {config : LoginConfig} {binding : OpaqueBinding} {registration : RegistrationBinding}
  {client : OpaqueClient} {accountId : Id} {password entered record : Bytes}
  {auth after : AuthSystem} {phase : CallPhase} {left : Nat}

theorem GoesWell.open
    (well : GoesWell binding client accountId password entered record auth phase left) :
    ∀ id, phase.request = some id → ∃ found, auth.logins.phases id = some found := by
  rintro id asked
  cases well with
  | first random state ke1 request found started here leg =>
      cases asked
      exact ⟨found, here⟩
  | second ke3 request found agreed here leg =>
      cases asked
      exact ⟨found, here⟩
  | posted | finishing | session | rejected => cases asked

theorem GoesWell.apart {action : AuthAction}
    (well : GoesWell binding client accountId password entered record auth phase left)
    (there : auth.credentials accountId = some record)
    (alone : auth.Alone accountId phase.request)
    (stepped : auth.step config binding registration action = some after)
    (apart : action.Apart config.backend accountId phase.request)
    (inTime : phase.relies = true → action.InTime accountId auth.logins.server) :
    after.credentials accountId = some record ∧ after.Alone accountId phase.request ∧
      GoesWell binding client accountId password entered record after phase left := by
  obtain ⟨mine, alone', spares⟩ := AuthSystem.apart_step stepped apart alone well.open
  refine ⟨spares.credentials record there, alone', ?_⟩
  cases well with
  | posted random state ke1 started => exact .posted random state ke1 started
  | first random state ke1 id found started here leg =>
      exact .first random state ke1 id found started ((mine id rfl).trans here)
        (leg.spared there spares (inTime rfl))
  | finishing ke3 agreed holds => exact .finishing ke3 agreed (holds.spared spares (inTime rfl))
  | second ke3 id found agreed here leg =>
      exact .second ke3 id found agreed ((mine id rfl).trans here)
        (leg.spared there spares (inTime rfl))
  | session accessToken expiresAt agreed => exact .session accessToken expiresAt agreed
  | rejected differs => exact .rejected differs

theorem left_pos {phase : LoginPhase} (unanswered : opaqueLoginStep phase = none) :
    0 < phase.left := by
  cases phase with
  | answered answer => cases answer <;> cases unanswered
  | dropped => cases unanswered
  | ensureAccount | checkAndIncrement | ready | getCredentialRecord => exact Nat.succ_pos _
  | loginStart | loginFinish | issueSession => exact Nat.succ_pos _

theorem FirstLeg.answer {ke1 : Bytes} {id : RequestId} {server : LoginServer} {phase : LoginPhase}
    {reply : Reply} (leg : FirstLeg binding accountId record ke1 id server phase)
    (answered : opaqueLoginStep phase = some reply) :
    phase.login = none ∧ ∃ ke2, reply = .message ke2 ∧ ∃ serverState expiresAt random,
      server.states accountId = some ⟨.real serverState, expiresAt, id⟩ ∧
        binding.loginStart random record accountId ke1 opaqueContext = some (serverState, ke2) := by
  cases phase with
  | answered answer =>
      cases answer with
      | message ke2 =>
          rw [opaqueLoginStep, readMessage_eq, Option.some.injEq] at answered
          exact ⟨rfl, ke2, answered.symm, leg⟩
      | session | unauthorized | refused | failed => cases leg
  | ensureAccount | checkAndIncrement | ready | getCredentialRecord => cases answered
  | loginStart => cases answered
  | loginFinish | issueSession | dropped => cases leg

theorem SecondLeg.answer {ke3 : Bytes} {server : LoginServer} {phase : LoginPhase} {reply : Reply}
    (leg : SecondLeg binding accountId ke3 server phase)
    (answered : opaqueLoginStep phase = some reply) :
    phase.login = none ∧ ∃ accessToken expiresAt, reply = .session accessToken expiresAt := by
  cases phase with
  | answered answer =>
      cases answer with
      | session accessToken expiresAt =>
          cases answered
          exact ⟨rfl, accessToken, expiresAt, rfl⟩
      | message | unauthorized | refused | failed => cases leg
  | ensureAccount | checkAndIncrement | ready | loginFinish | issueSession => cases answered
  | getCredentialRecord | loginStart | dropped => cases leg

theorem GoesWell.deliver {leg : Leg} {message : Bytes} {request : RequestId}
    {admissionKey : String} {now : Nat} (valid : isValidAccountId accountId = true)
    (laws : OpaqueLaws binding registration client)
    (well : GoesWell binding client accountId password entered record auth (.posted leg message) left)
    (alone : auth.Alone accountId none)
    (arrived : auth.step config binding registration
      (AuthClients.arrival accountId request admissionKey now leg message) = some after)
    (allowed : auth.logins.server.buckets.allow admissionKey now config.admissionWindow
      config.admissionMax = true)
    (nonePending : (CallPhase.posted leg message).relies = false →
      auth.logins.server.states.hasPending accountId now = false)
    (inTime : (CallPhase.posted leg message).relies = true →
      auth.logins.server.Live accountId now) :
    ∃ later, after.credentials = auth.credentials ∧ after.Alone accountId (some request) ∧
      GoesWell binding client accountId password entered record after (.waiting leg request) later ∧
      later + 1 ≤ left := by
  cases well with
  | posted random state ke1 started =>
      obtain ⟨-, serves⟩ := AuthSystem.arriveLogin_step arrived
      have first := @firstLeg_arrive config binding accountId now auth.logins.server record message
        request admissionKey valid (laws.ke1_length _ _ _ _ started) allowed (nonePending rfl)
      refine ⟨_, serves.credentials, ?_, .first random state message request _ started serves.mine
        (serves.server ▸ first), ?_⟩
      · exact alone.served serves (fun _ _ same => by cases same) fun _ _ _ => rfl
      · exact Nat.succ_le_succ (Nat.add_le_add_left (arrive_left ..) 8)
  | finishing ke3 agreed holds =>
      obtain ⟨-, serves⟩ := AuthSystem.arriveLogin_step arrived
      have second := @secondLeg_arrive config binding accountId now auth.logins.server message
        admissionKey valid allowed (inTime rfl) holds
      refine ⟨_, serves.credentials, ?_, .second message request _ agreed serves.mine
        (serves.server ▸ second), ?_⟩
      · exact alone.served serves (fun _ _ same => by cases same) fun _ _ _ => rfl
      · exact Nat.succ_le_succ (Nat.add_le_add_left (arrive_left ..) 1)

theorem GoesWell.advance {leg : Leg} {id : RequestId} {surroundings : Surroundings}
    (laws : OpaqueLaws binding registration client)
    (recordOf : RecordOf registration client accountId password record)
    (well : GoesWell binding client accountId password entered record auth (.waiting leg id) left)
    (there : auth.credentials accountId = some record) (alone : auth.Alone accountId (some id))
    (stepped : auth.step config binding registration (.advanceLogin id surroundings) = some after)
    (served : surroundings.failing = false)
    (within : ∀ login hasPending,
      auth.logins.phases id = some (.checkAndIncrement login hasPending) →
      (auth.logins.server.sweepAll surroundings.sweeps).withinLimit accountId surroundings.now
        config.rateLimitWindow config.rateLimitMax = true)
    (inTime : (CallPhase.waiting leg id).relies = true →
      auth.logins.server.Live accountId surroundings.now) :
    ∃ later, after.credentials = auth.credentials ∧ after.Alone accountId (some id) ∧
      GoesWell binding client accountId password entered record after (.waiting leg id) later ∧
      later ≤ left ∧ (AuthClients.answerOf auth leg id = none → later + 1 ≤ left) := by
  obtain ⟨phase, found, serves⟩ := AuthSystem.advanceLogin_step stepped
  have alone' : after.Alone accountId (some id) :=
    alone.served serves (fun _ _ same => same) fun _ _ _ => rfl
  have swept := @spares_sweepAll accountId True auth.logins.server surroundings.sweeps
  have states := congrFun (@sweepAll_states auth.logins.server surroundings.sweeps) accountId
  cases well with
  | first random state ke1 id' phase' started here leg =>
      cases found.symm.trans here
      have starts := laws.login accountId password record random entered ke1 state recordOf started
        surroundings.random
      obtain ⟨serverState, ke2, started', -⟩ := starts
      obtain ⟨first, less⟩ := @firstLeg_perform config binding accountId _ record ke1 id phase
        surroundings ⟨serverState, ke2, started'⟩ (swept.credentials record there) served
        (fun login hasPending same => within login hasPending (same ▸ found))
        (leg.spared there swept trivial)
      refine ⟨_, serves.credentials, alone', .first random state ke1 id _ started serves.mine
        (serves.server ▸ first), Nat.add_le_add_left (Nat.le_trans less (Nat.sub_le _ 1)) 8, ?_⟩
      intro unanswered
      rw [AuthClients.answerOf, found] at unanswered
      have positive := left_pos unanswered
      change 8 + (perform _ _ _ _ _ _).phase.left + 1 ≤ _
      omega
  | second ke3 id' phase' agreed here leg =>
      cases found.symm.trans here
      obtain ⟨second, less⟩ := @secondLeg_perform config binding accountId _ ke3 id phase
        surroundings served (fun login hasPending same => within login hasPending (same ▸ found))
        (fun entry held => inTime rfl entry (states.symm.trans held))
        (leg.spared there swept trivial)
      refine ⟨_, serves.credentials, alone', .second ke3 id _ agreed serves.mine
        (serves.server ▸ second), Nat.add_le_add_left (Nat.le_trans less (Nat.sub_le _ 1)) 1, ?_⟩
      intro unanswered
      rw [AuthClients.answerOf, found] at unanswered
      have positive := left_pos unanswered
      change 1 + (perform _ _ _ _ _ _).phase.left + 1 ≤ _
      omega

theorem GoesWell.receive {leg : Leg} {id : RequestId} {random : Nat → UInt8} {reply : Reply}
    (laws : OpaqueLaws binding registration client)
    (recordOf : RecordOf registration client accountId password record)
    (well : GoesWell binding client accountId password entered record auth (.waiting leg id) left)
    (alone : auth.Alone accountId (some id))
    (answered : AuthClients.answerOf auth leg id = some reply) :
    auth.Alone accountId (resume client random entered leg reply).request ∧
      ∃ later, GoesWell binding client accountId password entered record auth
          (resume client random entered leg reply) later ∧ later + 1 ≤ left := by
  have none' (closed : ∀ phase, auth.logins.phases id = some phase → phase.login = none) :
      auth.Alone accountId none := by
    intro other phase login found asks same
    obtain rfl : id = other := Option.some.inj (alone other phase login found asks same)
    rw [closed phase found] at asks
    cases asks
  cases well with
  | first random' state ke1 id' phase started here leg =>
      rw [AuthClients.answerOf, here] at answered
      obtain ⟨closed, ke2, rfl, serverState, expiresAt, served, found, responded⟩ :=
        leg.answer answered
      have alone' := none' fun phase' found' => by
        rw [here, Option.some.injEq] at found'
        exact found' ▸ closed
      obtain ⟨serverState', ke2', responded', settles⟩ := laws.login accountId password record random'
        entered ke1 state recordOf started served
      rw [responded, Option.some.injEq, Prod.mk.injEq] at responded'
      obtain ⟨rfl, rfl⟩ := responded'
      by_cases agreed : entered = password
      · obtain ⟨ke3, finished, accepted⟩ := (settles random).1 agreed
        simp only [resume, goOn, finished]
        exact ⟨alone', 7, .finishing ke3 agreed ⟨serverState, expiresAt, id, found, accepted⟩,
          Nat.le_add_right 8 _⟩
      · simp only [resume, goOn, (settles random).2 agreed]
        exact ⟨alone', 0, .rejected agreed, by omega⟩
  | second ke3 id' phase agreed here leg =>
      rw [AuthClients.answerOf, here] at answered
      obtain ⟨closed, accessToken, expiresAt, rfl⟩ := leg.answer answered
      have alone' := none' fun phase' found' => by
        rw [here, Option.some.injEq] at found'
        exact found' ▸ closed
      exact ⟨alone', 0, .session accessToken expiresAt agreed, Nat.le_add_right 1 _⟩

end GoesWell

namespace AuthClients

variable (config : LoginConfig) (binding : OpaqueBinding) (registration : RegistrationBinding)
  (client : OpaqueClient) (accountId : Id) (password entered record : Bytes) (call : CallId)

def moves (clients : AuthClients) : ClientAction → Bool
  | .deliver other _ _ _ | .receive other _ => other == call
  | .server (.advanceLogin id _) =>
      match clients.calls call with
      | some ⟨_, _, .waiting leg request⟩ =>
          request == id && (answerOf clients.auth leg request).isNone
      | _ => false
  | .server (.arriveLogin ..) | .server (.arriveRegister ..) => false
  | .server (.advanceRegister ..) | .server .restart => false
  | .register .. | .login .. | .networkError _ => false

def moved (clients : AuthClients) (actions : List ClientAction) : List ClientAction :=
  observed (step config binding registration client)
    (fun clients action _ => if moves call clients action then some action else none)
    clients actions

def Progress (clients : AuthClients) (left : Nat) : Prop :=
  clients.auth.credentials accountId = some record ∧
    ∃ phase, clients.calls call = some ⟨accountId, entered, phase⟩ ∧
      clients.auth.Alone accountId phase.request ∧
      GoesWell binding client accountId password entered record clients.auth phase left

section Progress

variable {config : LoginConfig} {binding : OpaqueBinding} {registration : RegistrationBinding}
  {client : OpaqueClient} {accountId : Id} {password entered record : Bytes} {call : CallId}
  {clients next : AuthClients} {left : Nat}

theorem InTime.of_relies {call' : Call} {now : Nat} (inTime : clients.InTime call accountId now)
    (known : clients.calls call = some call') (relies : call'.phase.relies = true) :
    clients.auth.logins.server.Live accountId now :=
  inTime ⟨call', known, relies⟩

theorem Progress.server {auth : AuthSystem} {action : AuthAction} {phase : CallPhase}
    (there : clients.auth.credentials accountId = some record)
    (known : clients.calls call = some ⟨accountId, entered, phase⟩)
    (alone : clients.auth.Alone accountId phase.request)
    (well : GoesWell binding client accountId password entered record clients.auth phase left)
    (stepped : clients.auth.step config binding registration action = some auth)
    (apart : action.Apart config.backend accountId phase.request)
    (inTime : phase.relies = true → action.InTime accountId clients.auth.logins.server) :
    Progress binding client accountId password entered record call { clients with auth } left := by
  obtain ⟨there', alone', well'⟩ := well.apart there alone stepped apart inTime
  exact ⟨there', phase, known, alone', well'⟩

/-- No step is a login to the account, and the process goes on. -/
def Unvisited (config : LoginConfig) (accountId : Id) (clients : AuthClients) : ClientAction → Prop
  | .deliver other _ _ _ =>
      ∀ known ∈ clients.calls other, known.accountId = accountId → known.phase.logsIn = false
  | .server (.arriveLogin _ request _) =>
      ∀ login, readLogin config.backend request.body = .ok login → login.accountId ≠ accountId
  | .server .restart => False
  | .server (.advanceLogin ..) | .server (.arriveRegister ..) | .server (.advanceRegister ..) => True
  | .register .. | .login .. | .receive .. | .networkError _ => True

theorem Progress.setCall {other : CallId} {call' : Call} (apart : call ≠ other)
    (progress : Progress binding client accountId password entered record call clients left) :
    Progress binding client accountId password entered record call (clients.setCall other call')
      left := by
  obtain ⟨there, phase, known, alone, well⟩ := progress
  exact ⟨there, phase, (setCall_of_ne apart).trans known, alone, well⟩

theorem arrival_apart {backend : Backend} {asked : Id} {id : RequestId} {admissionKey : String}
    {now : Nat} {leg : Leg} {message : Bytes} {mine : Option RequestId}
    (other : asked = accountId → (CallPhase.posted leg message).logsIn = false) :
    (arrival asked id admissionKey now leg message).Apart backend accountId mine := by
  cases leg with
  | registerStart | registerFinish => trivial
  | loginStart | loginFinish =>
      intro login read same
      cases other ((readLogin_asked read).symm.trans same)

theorem alone_step {action : ClientAction} (alone : clients.auth.Alone accountId none)
    (unvisited : clients.Unvisited config accountId action)
    (stepped : clients.step config binding registration client action = some next) :
    next.auth.Alone accountId none := by
  cases step_cases stepped with
  | register | login | receive | networkError => exact alone
  | deliver id request admissionKey now asked password' leg message auth posted arrived =>
      exact (AuthSystem.apart_step arrived (arrival_apart (unvisited _ posted)) alone
        (by rintro _ ⟨⟩)).2.1
  | server action auth served =>
      cases action with
      | arriveLogin id request now =>
          exact (AuthSystem.apart_step served unvisited alone (by rintro _ ⟨⟩)).2.1
      | advanceLogin id surroundings =>
          exact (AuthSystem.apart_step served (fun same => by cases same) alone
            (by rintro _ ⟨⟩)).2.1
      | arriveRegister | advanceRegister =>
          exact (AuthSystem.apart_step served trivial alone (by rintro _ ⟨⟩)).2.1
      | restart => cases unvisited

theorem alone_run {actions : List ClientAction}
    (unvisited : Every (step config binding registration client) (Unvisited config accountId)
      initial actions)
    (ran : run (step config binding registration client) initial actions = some clients) :
    clients.auth.Alone accountId none :=
  run_invariant (fun _ _ _ => alone_step) (fun _ _ _ found => by cases found) unvisited ran

theorem arrival_inTime {asked : Id} {id : RequestId} {admissionKey : String} {now : Nat}
    {leg : Leg} {message : Bytes} {server : LoginServer} (live : server.Live accountId now) :
    (arrival asked id admissionKey now leg message).InTime accountId server := by
  cases leg with
  | registerStart | registerFinish => trivial
  | loginStart | loginFinish => exact live

theorem progress_step {action : ClientAction} (laws : OpaqueLaws binding registration client)
    (recordOf : RecordOf registration client accountId password record)
    (valid : isValidAccountId accountId = true)
    (progress : Progress binding client accountId password entered record call clients left)
    (undisturbed : clients.Undisturbed config call accountId action)
    (stepped : clients.step config binding registration client action = some next) :
    ∃ later, Progress binding client accountId password entered record call next later ∧
      later + (if moves call clients action then some action else none).toList.length ≤ left := by
  have quiet (still : moves call clients action = false)
      (later : Progress binding client accountId password entered record call next left) :
      ∃ later, Progress binding client accountId password entered record call next later ∧
        later + (if moves call clients action then some action else none).toList.length ≤ left :=
    ⟨left, later, by simp [still]⟩
  obtain ⟨there, phase, known, alone, well⟩ := progress
  have progress : Progress binding client accountId password entered record call clients left :=
    ⟨there, phase, known, alone, well⟩
  cases step_cases stepped with
  | register id asked password' random fresh | login id asked password' random fresh =>
      refine quiet rfl (progress.setCall ?_)
      rintro rfl
      cases known.symm.trans fresh
  | networkError id call' known' =>
      exact quiet rfl (progress.setCall (Ne.symm undisturbed))
  | deliver id request admissionKey now asked password' leg message auth posted arrived =>
      obtain ⟨inTime, served⟩ := undisturbed
      have conditions := served _ posted
      by_cases same : id = call
      · subst same
        cases known.symm.trans posted
        rw [if_pos rfl] at conditions
        obtain ⟨later, there', alone', well', spent⟩ := well.deliver valid laws alone arrived
          conditions.1 conditions.2 (inTime.of_relies known)
        refine ⟨later, ⟨there'.symm ▸ there, _, setCall_self .., alone', well'⟩, ?_⟩
        simpa [moves] using spent
      · rw [if_neg same] at conditions
        refine quiet (by simp [moves, same]) (Progress.setCall (Ne.symm same) ?_)
        exact Progress.server there known alone well arrived (arrival_apart conditions)
          fun relies => arrival_inTime (inTime.of_relies known relies)
  | receive id random asked password' leg request reply waiting answered =>
      by_cases same : id = call
      · subst same
        cases known.symm.trans waiting
        obtain ⟨alone', later, well', spent⟩ := @GoesWell.receive binding registration client
          accountId password entered record clients.auth left leg request random reply laws recordOf
          well alone answered
        refine ⟨later, ⟨there, _, setCall_self .., alone', well'⟩, ?_⟩
        simpa [moves] using spent
      · exact quiet (by simp [moves, same]) (progress.setCall (Ne.symm same))
  | server action auth served =>
      cases action with
      | arriveLogin id request now =>
          obtain ⟨inTime, apart⟩ := undisturbed
          exact quiet rfl (Progress.server there known alone well served apart
            (inTime.of_relies known))
      | advanceLogin id surroundings =>
          obtain ⟨inTime, conditions⟩ := undisturbed
          by_cases mine : phase.request = some id
          · cases phase with
            | posted | registered | session | rejected => cases mine
            | waiting leg request =>
                cases mine
                obtain ⟨serving, within⟩ := conditions _ known rfl
                obtain ⟨later, there', alone', well', less, spent⟩ := well.advance laws recordOf
                  there alone served serving (fun _ _ found => within _ found rfl)
                  (inTime.of_relies known)
                refine ⟨later, ⟨there'.symm ▸ there, _, known, alone', well'⟩, ?_⟩
                cases unanswered : answerOf clients.auth leg id with
                | none => simpa [moves, known, unanswered] using spent unanswered
                | some reply => simpa [moves, known, unanswered] using less
          · have still : moves call clients (.server (.advanceLogin id surroundings)) = false := by
              simp only [moves, known]
              split
              next asked _ leg request same =>
                simp only [Option.some.injEq, Call.mk.injEq] at same
                obtain ⟨-, -, rfl⟩ := same
                have apart : request ≠ id := fun same => mine (congrArg some same)
                simp [apart]
              · rfl
            exact quiet still (Progress.server there known alone well served mine
              (inTime.of_relies known))
      | arriveRegister | advanceRegister =>
          exact quiet rfl (Progress.server there known alone well served trivial fun _ => trivial)
      | restart => cases undisturbed

theorem progress_run {actions : List ClientAction} {final : AuthClients}
    (laws : OpaqueLaws binding registration client)
    (recordOf : RecordOf registration client accountId password record)
    (valid : isValidAccountId accountId = true)
    (progress : Progress binding client accountId password entered record call clients left)
    (undisturbed : Every (step config binding registration client)
      (Undisturbed config call accountId) clients actions)
    (ran : run (step config binding registration client) clients actions = some final) :
    ∃ later, Progress binding client accountId password entered record call final later ∧
      later + (moved config binding registration client call clients actions).length ≤ left :=
  observed_bounded (fun _ _ _ _ progress => progress_step laws recordOf valid progress) progress
    undisturbed ran

theorem deliver_enabled {leg : Leg} {message : Bytes} {fresh : RequestId}
    (known : clients.calls call = some ⟨accountId, entered, .posted leg message⟩)
    (logsIn : (CallPhase.posted leg message).logsIn = true)
    (unused : clients.auth.logins.phases fresh = none) :
    ∃ action next, moves call clients action = true ∧
      clients.step config binding registration client action = some next := by
  refine ⟨.deliver call fresh "" 0, ?_⟩
  cases leg with
  | registerStart | registerFinish => cases logsIn
  | loginStart | loginFinish =>
      simp [moves, step, known, arrival, AuthSystem.step, AuthSystem.login, LoginSystem.step, unused]

theorem waiting_enabled {leg : Leg} {id : RequestId} {phase : LoginPhase}
    (known : clients.calls call = some ⟨accountId, entered, .waiting leg id⟩)
    (found : clients.auth.logins.phases id = some phase) :
    ∃ action next, moves call clients action = true ∧
      clients.step config binding registration client action = some next := by
  cases answered : answerOf clients.auth leg id with
  | none =>
      refine ⟨.server (.advanceLogin id (calm 0)), ?_⟩
      simp [moves, step, known, answered, AuthSystem.step, AuthSystem.login, LoginSystem.step, found]
  | some reply =>
      refine ⟨.receive call fun _ => 0, ?_⟩
      simp [moves, step, known, answered]

theorem Progress.enabled {fresh : RequestId}
    (progress : Progress binding client accountId password entered record call clients left)
    (unsettled : ∀ known, clients.calls call = some known → known.phase.settled = false)
    (unused : clients.auth.logins.phases fresh = none) :
    ∃ action next, moves call clients action = true ∧
      clients.step config binding registration client action = some next := by
  obtain ⟨there, phase, known, alone, well⟩ := progress
  have open' := unsettled _ known
  cases well with
  | posted random state ke1 started => exact deliver_enabled known rfl unused
  | finishing ke3 agreed holds => exact deliver_enabled known rfl unused
  | first random state ke1 id phase started found leg => exact waiting_enabled known found
  | second ke3 id phase agreed found leg => exact waiting_enabled known found
  | session | rejected => cases open'

/-- A login with any password to an account that somebody has registered by calls with one password,
whatever else the server is doing: once it settles it has a session exactly when the passwords are the
same, until then it can go on, and it takes at most 14 moves. -/
theorem undisturbed_login_settles {before later : List ClientAction} {opened final : AuthClients}
    {random : Nat → UInt8} {ke1 state : Bytes} (laws : OpaqueLaws binding registration client)
    (ran : run (step config binding registration client) initial before = some clients)
    (registersWith : Every (step config binding registration client)
      (RegistersWith config accountId password) initial before)
    (registered : clients.auth.credentials accountId = some record)
    (alone : clients.auth.Alone accountId none)
    (started : client.clientLoginStart random entered = some (ke1, state))
    (came : clients.step config binding registration client (.login call accountId entered random) =
      some opened)
    (undisturbed : Every (step config binding registration client)
      (Undisturbed config call accountId) opened later)
    (went : run (step config binding registration client) opened later = some final) :
    ∃ phase, final.calls call = some ⟨accountId, entered, phase⟩ ∧
      (phase.settled = true → if entered = password then ∃ accessToken expiresAt,
        phase = .session accessToken expiresAt else phase = .rejected) ∧
      (phase.settled = false → ∀ fresh, final.auth.logins.phases fresh = none →
        ∃ action next, moves call final action = true ∧
          final.step config binding registration client action = some next) ∧
      (moved config binding registration client call opened later).length ≤ 14 := by
  obtain ⟨recordOf, valid⟩ := recordOf_run laws ran registersWith registered
  have opening : Progress binding client accountId password entered record call opened 14 := by
    cases step_cases came with
    | login id asked password' random' fresh =>
        refine ⟨registered, _, setCall_self .., ?_, ?_⟩
        · rw [started]
          exact alone
        · rw [started]
          exact .posted random state ke1 started
  obtain ⟨left, progress, spent⟩ := progress_run laws recordOf valid opening undisturbed went
  obtain ⟨there, phase, known, alone', well⟩ := id progress
  refine ⟨phase, known, ?_, ?_, by omega⟩
  · intro settled
    cases well with
    | session accessToken expiresAt agreed =>
        rw [if_pos agreed]
        exact ⟨accessToken, expiresAt, rfl⟩
    | rejected differs => rw [if_neg differs]
    | posted | first | finishing | second => cases settled
  · intro open' fresh unused
    refine progress.enabled ?_ unused
    intro call' known'
    cases known.symm.trans known'
    exact open'

end Progress

section Decidable

variable (config : LoginConfig) (accountId : Id) (clients : AuthClients)

instance {ε α : Type} (result : Except ε α) (p : α → Prop) [DecidablePred p] :
    Decidable (∀ a, result = .ok a → p a) :=
  match result with
  | .ok a => decidable_of_iff (p a)
      ⟨fun holds _ same => Except.ok.inj same ▸ holds, fun holds => holds a rfl⟩
  | .error _ => isTrue fun _ same => by cases same

instance (server : LoginServer) (now : Nat) : Decidable (server.Live accountId now) :=
  inferInstanceAs (Decidable (∀ entry ∈ server.states accountId, now < entry.expiresAt))

instance (call : CallId) (now : Nat) : Decidable (clients.InTime call accountId now) :=
  inferInstanceAs (Decidable ((∃ known ∈ clients.calls call, known.phase.relies = true) →
    clients.auth.logins.server.Live accountId now))

instance (call : CallId) : DecidablePred (Undisturbed config call accountId clients)
  | .networkError other => inferInstanceAs (Decidable (other ≠ call))
  | .deliver .. | .server (.arriveLogin ..) | .server (.advanceLogin ..) => by
      change Decidable (_ ∧ _)
      infer_instance
  | .server .restart => isFalse id
  | .server (.arriveRegister ..) | .server (.advanceRegister ..) => isTrue trivial
  | .register .. | .login .. | .receive .. => isTrue trivial

instance : DecidablePred (Unvisited config accountId clients)
  | .deliver other _ _ _ => inferInstanceAs (Decidable (∀ known ∈ clients.calls other,
      known.accountId = accountId → known.phase.logsIn = false))
  | .server (.arriveLogin _ request _) => inferInstanceAs (Decidable (∀ login,
      readLogin config.backend request.body = .ok login → login.accountId ≠ accountId))
  | .server .restart => isFalse id
  | .server (.arriveRegister ..) | .server (.advanceRegister ..) => isTrue trivial
  | .server (.advanceLogin ..) => isTrue trivial
  | .register .. | .login .. | .receive .. | .networkError _ => isTrue trivial

instance (password : Bytes) : DecidablePred (RegistersWith config accountId password clients)
  | .register _ asked entered _ =>
      inferInstanceAs (Decidable (asked = accountId → entered = password))
  | .server (.arriveRegister _ request _) => inferInstanceAs (Decidable (∀ login,
      readRegister config.backend request.body = .ok login → login.accountId ≠ accountId))
  | .server .restart | .server (.arriveLogin ..) => isTrue trivial
  | .server (.advanceLogin ..) | .server (.advanceRegister ..) => isTrue trivial
  | .login .. | .deliver .. | .receive .. | .networkError _ => isTrue trivial

end Decidable

def plainRecord (password : Bytes) : Bytes := List.replicate 33 0 ++ password

def plainClient : OpaqueClient where
  clientRegistrationStart _ password := some (List.replicate registrationRequestLength 0, password)
  clientRegistrationFinish _ _ password _ := some (plainRecord password)
  clientLoginStart _ password := some (List.replicate ke1Length 0, password)
  clientLoginFinish _ _ password ke2 _ := if ke2 = plainRecord password then some ke2 else none

def plainRegistration : RegistrationBinding where
  serverRegistrationStart _ _ := some []
  serverRegistrationFinish upload := some upload

def plainBinding : OpaqueBinding where
  loginStart _ record _ _ _ := some (record, record)
  loginFinish state ke3 _ := decide (ke3 = state)

theorem plain_laws : OpaqueLaws plainBinding plainRegistration plainClient where
  request_length := by
    rintro random password request state ⟨⟩
    exact List.length_replicate
  ke1_length := by
    rintro random password ke1 state ⟨⟩
    exact List.length_replicate
  login := by
    rintro accountId password record random entered ke1 state ⟨upload, uploaded, recorded⟩ begun
      random'
    obtain ⟨_, _, _, _, _, started, responded, finished⟩ := uploaded
    cases begun
    cases finished
    cases recorded
    refine ⟨_, _, rfl, fun random'' => ⟨?_, ?_⟩⟩
    · rintro rfl
      exact ⟨_, if_pos rfl, decide_eq_true rfl⟩
    · intro differs
      refine if_neg fun same => differs ?_
      exact (List.append_cancel_left same).symm

abbrev plainStep : AuthClients → ClientAction → Option AuthClients :=
  step (sampleConfig .rust) plainBinding plainRegistration plainClient

def aliceRegisters : List ClientAction :=
  [.register 0 "alice" [7] fun _ => 0, .deliver 0 100 "::1" 1000] ++
    List.replicate 3 (.server (.advanceRegister 100 (calm 1000))) ++
    [.receive 0 fun _ => 0, .deliver 0 101 "::1" 1000] ++
    List.replicate 4 (.server (.advanceRegister 101 (calm 1000))) ++
    [.receive 0 fun _ => 0]

theorem aliceRegisters_ran :
    run plainStep initial aliceRegisters = some (reached plainStep initial aliceRegisters) :=
  run_reached (by decide +kernel)

theorem aliceRegisters_with : Every plainStep (RegistersWith (sampleConfig .rust) "alice" [7])
    initial aliceRegisters := by decide +kernel

theorem aliceRegisters_record :
    (reached plainStep initial aliceRegisters).auth.credentials "alice" = some (plainRecord [7]) := by
  decide +kernel

def aliceEntersAgain : ClientAction := .login 1 "alice" [7] fun _ => 0

def besideBob : List ClientAction :=
  [.login 2 "bob" [9] fun _ => 0, .deliver 1 200 "::1" 2000, .deliver 2 300 "::2" 2000] ++
    List.replicate 5 (.server (.advanceLogin 200 (calm 2000))) ++
    [.server (.advanceLogin 300 (calm 2000)), .receive 1 fun _ => 0, .deliver 1 201 "::1" 2000] ++
    List.replicate 5 (.server (.advanceLogin 201 (calm 2000))) ++
    [.server (.advanceLogin 300 (calm 2000)), .receive 1 fun _ => 0]

theorem undisturbed_login_settles_besideBob :
    let enrolled := reached plainStep initial aliceRegisters
    let opened := reached plainStep enrolled [aliceEntersAgain]
    let final := reached plainStep opened besideBob
    ∃ phase, final.calls 1 = some ⟨"alice", [7], phase⟩ ∧
      (phase.settled = true → if ([7] : Bytes) = [7] then ∃ accessToken expiresAt,
        phase = .session accessToken expiresAt else phase = .rejected) ∧
      (phase.settled = false → ∀ fresh, final.auth.logins.phases fresh = none →
        ∃ action next, moves 1 final action = true ∧ plainStep final action = some next) ∧
      (moved (sampleConfig .rust) plainBinding plainRegistration plainClient 1 opened
        besideBob).length ≤ 14 := by
  intro enrolled opened final
  have evaluated : (run plainStep enrolled [aliceEntersAgain]).isSome = true ∧
      (run plainStep opened besideBob).isSome = true ∧
      Every plainStep (Unvisited (sampleConfig .rust) "alice") initial aliceRegisters ∧
      Every plainStep (Undisturbed (sampleConfig .rust) 1 "alice") opened besideBob := by
    decide +kernel
  obtain ⟨entered, ran, unvisited, undisturbed⟩ := evaluated
  exact undisturbed_login_settles plain_laws aliceRegisters_ran aliceRegisters_with
    aliceRegisters_record (alone_run unvisited aliceRegisters_ran) rfl (step_reached entered)
    undisturbed (run_reached ran)

end AuthClients

end ZenPass.Auth
