import ZenPass.Auth.LoginState
import ZenPass.Lib.Transition

set_option autoImplicit false

-- `POST /auth/opaque/login` of both backends, one statement or one stretch between two awaits at a
-- time. OPAQUE is a parameter.

namespace ZenPass.Auth

open Wire Transition
open Sync (Id Backend)

def ke1Length : Nat := 96

def ke2Length : Nat := 320

def opaqueContext : Bytes := "zkpm-opaque-v1".toUTF8.toList

def randomBytes (random : Nat → UInt8) (length : Nat) : Bytes := (List.range length).map random

/-- The functions of the OPAQUE library, after the server setup. `loginStart` returns the state and
KE2, `none` where it throws. -/
structure OpaqueBinding where
  loginStart : (Nat → UInt8) → Bytes → Id → Bytes → Bytes → Option (Bytes × Bytes)
  loginFinish : Bytes → Bytes → Bytes → Bool

structure LoginConfig where
  backend : Backend
  loginStateTtl : Nat
  admissionMax : Nat
  admissionWindow : Nat
  rateLimitMax : Nat
  rateLimitWindow : Nat
  sessionTtl : Nat

inductive LoginBody where
  | unreadable (status : Nat)
  | fields (accountId clientMessage : Option String)
deriving DecidableEq, Repr

structure LoginRequest where
  admissionKey : String
  body : LoginBody
deriving DecidableEq, Repr

inductive LoginAnswer where
  | message (bytes : Bytes)
  | session (accessToken : Bytes) (expiresAt : Nat)
  | unauthorized
  | refused (status : Nat)
  | failed
deriving DecidableEq, Repr

structure Login where
  accountId : Id
  message : Bytes
deriving DecidableEq, Repr

def accountIdChar (c : Char) : Bool := c.isAlphanum || c == '.' || c == '_' || c == '-'

def isValidAccountId (accountId : String) : Bool :=
  decide (1 ≤ accountId.length ∧ accountId.length ≤ 128) && accountId.toList.all accountIdChar

def readLogin (backend : Backend) : LoginBody → Except LoginAnswer Login
  | .unreadable status =>
      match backend with
      | .node => .error (.refused status)
      | .rust => .error .unauthorized
  | .fields (some accountId) (some clientMessage) =>
      match decodeB64 (backend == .rust) clientMessage with
      | none => .error .unauthorized
      | some message =>
          if isValidAccountId accountId then .ok ⟨accountId, message⟩ else .error .unauthorized
  | .fields _ _ => .error .unauthorized

inductive LoginPhase where
  | ensureAccount (login : Login) (hasPending : Bool)
  | checkAndIncrement (login : Login) (hasPending : Bool)
  | ready (login : Login) (hasPending : Bool)
  | getCredentialRecord (login : Login)
  | loginStart (login : Login) (credentialRecord : Option Bytes)
  | loginFinish (login : Login) (stateBytes : Bytes) (storedBy : RequestId)
  | issueSession (login : Login) (storedBy : RequestId)
  | answered (answer : LoginAnswer)
  | dropped
deriving DecidableEq, Repr

def LoginPhase.login : LoginPhase → Option Login
  | .ensureAccount login _ | .checkAndIncrement login _ | .ready login _ => some login
  | .getCredentialRecord login | .loginStart login _ | .loginFinish login _ _ => some login
  | .issueSession login _ => some login
  | .answered _ | .dropped => none

inductive LoginEvent where
  | stored (request : RequestId) (accountId : Id) (pending : PendingLogin) (storedAt : Nat)
  | consumed (request storedBy : RequestId) (takenAt : Nat)
  | issued (request : RequestId) (accountId : Id) (storedBy : RequestId) (ke3 : Bytes)
deriving DecidableEq, Repr

/-- What the surroundings give to a step: two clock readings, the random bytes, whether the
statement fails, and the sweeps that run before it. -/
structure Surroundings where
  now : Nat
  later : Nat
  random : Nat → UInt8
  failing : Bool
  sweeps : List Sweep

structure LoginStep where
  server : LoginServer
  phase : LoginPhase
  event : Option LoginEvent := none

def databaseError : Backend → LoginAnswer
  | .node => .failed
  | .rust => .unauthorized

section Legs

variable (config : LoginConfig) (binding : OpaqueBinding)

def arrive (request : LoginRequest) (now : Nat) (server : LoginServer) : LoginStep :=
  match readLogin config.backend request.body with
  | .error answer => { server, phase := .answered answer }
  | .ok login =>
      let hasPending := server.states.hasPending login.accountId now
      let server := { server with states := server.states.evictExpired now }
      if !hasPending && decide (login.message.length ≠ ke1Length) then
        { server, phase := .answered .unauthorized }
      else
        let allowed := server.buckets.allow request.admissionKey now config.admissionWindow
          config.admissionMax
        let server := { server with
          buckets := server.buckets.afterAllow request.admissionKey now config.admissionWindow }
        if allowed then { server, phase := .ensureAccount login hasPending }
        else { server, phase := .answered .unauthorized }

def storedAt (surroundings : Surroundings) : Nat :=
  match config.backend with
  | .node => surroundings.later
  | .rust => surroundings.now

def store (id : RequestId) (login : Login) (pending : PendingLogin) (message : Bytes)
    (surroundings : Surroundings) (server : LoginServer) : LoginStep where
  server := { server with
    states := server.states.set login.accountId pending id surroundings.now
      (storedAt config surroundings) config.loginStateTtl }
  phase := .answered (.message message)
  event := some (.stored id login.accountId pending (storedAt config surroundings))

def finishLogin (login : Login) (stateBytes : Bytes) (storedBy : RequestId) : LoginPhase :=
  if binding.loginFinish stateBytes login.message opaqueContext then .issueSession login storedBy
  else .answered .unauthorized

def takePending (id : RequestId) (login : Login) (now : Nat) (server : LoginServer) : LoginStep :=
  let left := { server with states := server.states.afterTake login.accountId now }
  match server.states.pendingAt login.accountId now with
  | none => { server := left, phase := .answered .unauthorized }
  | some entry =>
      let event := some (.consumed id entry.storedBy now)
      match entry.pending with
      | .fake => { server := left, phase := .answered .unauthorized, event }
      | .real stateBytes =>
          match config.backend with
          | .node =>
              { server := left, phase := finishLogin binding login stateBytes entry.storedBy, event }
          | .rust =>
              { server := left, phase := .loginFinish login stateBytes entry.storedBy, event }

def perform (id : RequestId) (surroundings : Surroundings) (server : LoginServer) :
    LoginPhase → LoginStep
  | .ensureAccount login hasPending =>
      if surroundings.failing then { server, phase := .answered (databaseError config.backend) }
      else
        { server := server.ensureAccount login.accountId surroundings.now
          phase := .checkAndIncrement login hasPending }
  | .checkAndIncrement login hasPending =>
      -- The foreign key refuses a counter of an account without a row.
      if surroundings.failing || (server.accounts login.accountId).isNone then
        { server, phase := .answered (databaseError config.backend) }
      else
        { server := server.increment login.accountId surroundings.now config.rateLimitWindow
          phase :=
            if server.withinLimit login.accountId surroundings.now config.rateLimitWindow
                config.rateLimitMax then .ready login hasPending
            else .answered .unauthorized }
  | .ready login hasPending =>
      -- Node awaits the binding here.
      if surroundings.failing && config.backend == .node then { server, phase := .answered .failed }
      else if hasPending then takePending config binding id login surroundings.now server
      else { server, phase := .getCredentialRecord login }
  | .getCredentialRecord login =>
      if surroundings.failing then { server, phase := .answered (databaseError config.backend) }
      else { server, phase := .loginStart login (server.credentials login.accountId) }
  | .loginStart login none =>
      store config id login .fake (randomBytes surroundings.random ke2Length) surroundings server
  | .loginStart login (some credentialRecord) =>
      match binding.loginStart surroundings.random credentialRecord login.accountId login.message
          opaqueContext with
      | none => { server, phase := .answered .unauthorized }
      | some (stateBytes, message) =>
          store config id login (.real stateBytes) message surroundings server
  | .loginFinish login stateBytes storedBy =>
      { server, phase := finishLogin binding login stateBytes storedBy }
  | .issueSession login storedBy =>
      if surroundings.failing then { server, phase := .answered (databaseError config.backend) }
      else
        { server
          phase := .answered (.session (randomBytes surroundings.random 32)
            (surroundings.now + config.sessionTtl))
          event := some (.issued id login.accountId storedBy login.message) }
  | .answered answer => { server, phase := .answered answer }
  | .dropped => { server, phase := .dropped }

def advance (id : RequestId) (surroundings : Surroundings) (server : LoginServer)
    (phase : LoginPhase) : LoginStep :=
  perform config binding id surroundings (server.sweepAll surroundings.sweeps) phase

end Legs

theorem arrive_cases (config : LoginConfig) (request : LoginRequest) (now : Nat) (server : LoginServer) :
    let stepped := arrive config request now server
    stepped.event = none ∧ stepped.server.credentials = server.credentials ∧
      (∀ accountId entry, stepped.server.states accountId = some entry →
        server.states accountId = some entry) ∧
      ((∃ answer, stepped.phase = .answered answer) ∨
        ∃ login hasPending, readLogin config.backend request.body = .ok login ∧
          stepped.phase = .ensureAccount login hasPending) := by
  have evicted : ∀ accountId entry,
      server.states.evictExpired now accountId = some entry → server.states accountId = some entry :=
    fun _ _ found => (LoginStates.evictExpired_eq_some.mp found).1
  cases read : readLogin config.backend request.body with
  | error answer =>
      simp only [arrive, read]
      exact ⟨trivial, trivial, fun _ _ found => found, .inl ⟨answer, rfl⟩⟩
  | ok login =>
      simp only [arrive, read]
      split
      · exact ⟨rfl, rfl, evicted, .inl ⟨_, rfl⟩⟩
      · split
        · exact ⟨rfl, rfl, evicted, .inr ⟨login, _, rfl, rfl⟩⟩
        · exact ⟨rfl, rfl, evicted, .inl ⟨_, rfl⟩⟩

/-- The process with its open requests; `events` is the history of the login states and of the
sessions that login has issued. -/
structure LoginSystem where
  server : LoginServer
  requests : RequestId → Option LoginRequest
  phases : RequestId → Option LoginPhase
  events : List LoginEvent

inductive LoginAction where
  | arrive (id : RequestId) (request : LoginRequest) (now : Nat)
  | advance (id : RequestId) (surroundings : Surroundings)
  | register (accountId : Id) (record : Bytes)
  | restart

namespace LoginSystem

def initial : LoginSystem where
  server := LoginServer.initial
  requests := fun _ => none
  phases := fun _ => none
  events := []

def after (system : LoginSystem) (id : RequestId) (stepped : LoginStep) : LoginSystem :=
  { system with
    server := stepped.server
    phases := Function.update system.phases id (some stepped.phase)
    events := system.events ++ stepped.event.toList }

def step (config : LoginConfig) (binding : OpaqueBinding) (system : LoginSystem) :
    LoginAction → Option LoginSystem
  | .arrive id request now =>
      match system.phases id with
      | some _ => none
      | none =>
          some ({ system with
            requests := Function.update system.requests id (some request) }.after id
              (Auth.arrive config request now system.server))
  | .advance id surroundings =>
      (system.phases id).map fun phase =>
        system.after id (Auth.advance config binding id surroundings system.server phase)
  | .register accountId record =>
      some { system with server := system.server.saveCredentialRecordIfAbsent accountId record }
  | .restart =>
      some { system with
        server := system.server.restart
        phases := fun id => (system.phases id).map fun _ => .dropped }

end LoginSystem

def sampleBinding : OpaqueBinding where
  loginStart _ record _ ke1 _ :=
    if ke1.head? = some 255 then none else some (record, List.replicate ke2Length 0)
  loginFinish state ke3 _ := decide (ke3 = state)

def sampleConfig (backend : Backend) : LoginConfig :=
  ⟨backend, 60000, 20, 60000, 10, 300000, 900000⟩

def calm (now : Nat) : Surroundings := ⟨now, now, fun _ => 0, false, []⟩

def loginRequest (message : Bytes) : LoginRequest :=
  ⟨"::1", .fields (some "alice") (some (encodeB64 message))⟩

end ZenPass.Auth
