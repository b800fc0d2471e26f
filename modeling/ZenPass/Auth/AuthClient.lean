import ZenPass.Auth.Admission
import ZenPass.Wire.Decoders

set_option autoImplicit false

-- `AuthClient` of the SDK over its API client, any number of calls against one server that anybody
-- else may also send requests to. OPAQUE is a parameter on this side too.

namespace ZenPass.Auth

open Wire Transition
open Sync (Id Backend)

abbrev CallId := Nat

/-- The client's side of the OPAQUE library; `none` is a failure. A start returns a message and the
state that its finish needs. -/
structure OpaqueClient where
  clientRegistrationStart : (Nat → UInt8) → Bytes → Option (Bytes × Bytes)
  clientRegistrationFinish : (Nat → UInt8) → Bytes → Bytes → Bytes → Option Bytes
  clientLoginStart : (Nat → UInt8) → Bytes → Option (Bytes × Bytes)
  clientLoginFinish : (Nat → UInt8) → Bytes → Bytes → Bytes → Bytes → Option Bytes

inductive Leg where
  | registerStart (state : Bytes)
  | registerFinish
  | loginStart (state : Bytes)
  | loginFinish
deriving DecidableEq, Repr

inductive CallPhase where
  | posted (leg : Leg) (clientMessage : Bytes)
  | waiting (leg : Leg) (request : RequestId)
  | registered
  | session (accessToken : Bytes) (expiresAt : Nat)
  | rejected
deriving DecidableEq, Repr

structure Call where
  accountId : Id
  password : Bytes
  phase : CallPhase
deriving DecidableEq, Repr

inductive Reply where
  | message (bytes : Bytes)
  | session (accessToken : Bytes) (expiresAt : Nat)
  | error
deriving DecidableEq, Repr

def readMessage (bytes : Bytes) : Reply :=
  match Wire.Sdk.decodeB64 (encodeB64 bytes) with
  | some message => .message message
  | none => .error

def opaqueRegisterStep : RegisterPhase → Option Reply
  | .answered (.message bytes) => some (readMessage bytes)
  | .answered .badRequest | .answered (.refused _) | .answered .failed | .dropped => some .error
  | .registrationStep _ | .ensureAccount .. | .checkAndIncrement .. => none
  | .saveCredentialRecord .. => none

def opaqueLoginStep : LoginPhase → Option Reply
  | .answered (.message bytes) => some (readMessage bytes)
  | .answered (.session accessToken expiresAt) => some (.session accessToken expiresAt)
  | .answered .unauthorized | .answered (.refused _) | .answered .failed | .dropped => some .error
  | .ensureAccount .. | .checkAndIncrement .. | .ready .. | .getCredentialRecord _ => none
  | .loginStart .. | .loginFinish .. | .issueSession .. => none

theorem readMessage_eq (bytes : Bytes) : readMessage bytes = .message bytes := by
  rw [readMessage, (one_b64_codec bytes "").1.2.2.2.1]

theorem opaqueRegisterStep_message {phase : RegisterPhase} {bytes : Bytes}
    (answered : opaqueRegisterStep phase = some (.message bytes)) :
    phase = .answered (.message bytes) := by
  unfold opaqueRegisterStep at answered
  split at answered
  · rw [readMessage_eq] at answered
    cases answered
    rfl
  all_goals cases answered

section Calls

variable (client : OpaqueClient)

def begin (started : Option (Bytes × Bytes)) (leg : Bytes → Leg) : CallPhase :=
  match started with
  | none => .rejected
  | some (message, state) => .posted (leg state) message

def goOn (leg : Leg) (finished : Option Bytes) : CallPhase :=
  match finished with
  | none => .rejected
  | some message => .posted leg message

def resume (random : Nat → UInt8) (password : Bytes) : Leg → Reply → CallPhase
  | .registerStart state, .message response =>
      goOn .registerFinish (client.clientRegistrationFinish random state password response)
  | .registerFinish, .message _ => .registered
  | .loginStart state, .message response =>
      goOn .loginFinish (client.clientLoginFinish random state password response opaqueContext)
  | .loginFinish, .session accessToken expiresAt => .session accessToken expiresAt
  | _, _ => .rejected

end Calls

structure AuthClients where
  auth : AuthSystem
  calls : CallId → Option Call

/-- `server` is a step of the server, or a request of anybody else. -/
inductive ClientAction where
  | register (call : CallId) (accountId : Id) (password : Bytes) (random : Nat → UInt8)
  | login (call : CallId) (accountId : Id) (password : Bytes) (random : Nat → UInt8)
  | deliver (call : CallId) (id : RequestId) (admissionKey : String) (now : Nat)
  | receive (call : CallId) (random : Nat → UInt8)
  | networkError (call : CallId)
  | server (action : AuthAction)

namespace AuthClients

def initial : AuthClients where
  auth := .initial
  calls := fun _ => none

def setCall (clients : AuthClients) (id : CallId) (call : Call) : AuthClients :=
  { clients with calls := Function.update clients.calls id (some call) }

def arrival (accountId : Id) (id : RequestId) (admissionKey : String) (now : Nat) (leg : Leg)
    (clientMessage : Bytes) : AuthAction :=
  let request : LoginRequest :=
    ⟨admissionKey, .fields (some accountId) (some (encodeB64 clientMessage))⟩
  match leg with
  | .registerStart _ | .registerFinish => .arriveRegister id request now
  | .loginStart _ | .loginFinish => .arriveLogin id request now

def answerOf (auth : AuthSystem) (leg : Leg) (id : RequestId) : Option Reply :=
  match leg with
  | .registerStart _ | .registerFinish => (auth.phases id).bind opaqueRegisterStep
  | .loginStart _ | .loginFinish => (auth.logins.phases id).bind opaqueLoginStep

variable (config : LoginConfig) (binding : OpaqueBinding) (registration : RegistrationBinding)
  (client : OpaqueClient)

def step (clients : AuthClients) : ClientAction → Option AuthClients
  | .register id accountId password random =>
      match clients.calls id with
      | some _ => none
      | none =>
          some (clients.setCall id ⟨accountId, password,
            begin (client.clientRegistrationStart random password) .registerStart⟩)
  | .login id accountId password random =>
      match clients.calls id with
      | some _ => none
      | none =>
          some (clients.setCall id ⟨accountId, password,
            begin (client.clientLoginStart random password) .loginStart⟩)
  | .deliver id request admissionKey now =>
      match clients.calls id with
      | some ⟨accountId, password, .posted leg clientMessage⟩ =>
          (clients.auth.step config binding registration
            (arrival accountId request admissionKey now leg clientMessage)).map fun auth =>
              { clients with auth }.setCall id ⟨accountId, password, .waiting leg request⟩
      | _ => none
  | .receive id random =>
      match clients.calls id with
      | some ⟨accountId, password, .waiting leg request⟩ =>
          (answerOf clients.auth leg request).map fun reply =>
            clients.setCall id ⟨accountId, password, resume client random password leg reply⟩
      | _ => none
  | .networkError id =>
      match clients.calls id with
      | some ⟨accountId, password, .posted _ _⟩ | some ⟨accountId, password, .waiting _ _⟩ =>
          some (clients.setCall id ⟨accountId, password, .rejected⟩)
      | _ => none
  | .server action =>
      (clients.auth.step config binding registration action).map fun auth => { clients with auth }

inductive Stepped (clients : AuthClients) : ClientAction → AuthClients → Prop where
  | register (id : CallId) (accountId : Id) (password : Bytes) (random : Nat → UInt8)
      (fresh : clients.calls id = none) :
      Stepped clients (.register id accountId password random)
        (clients.setCall id ⟨accountId, password,
          begin (client.clientRegistrationStart random password) .registerStart⟩)
  | login (id : CallId) (accountId : Id) (password : Bytes) (random : Nat → UInt8)
      (fresh : clients.calls id = none) :
      Stepped clients (.login id accountId password random)
        (clients.setCall id ⟨accountId, password,
          begin (client.clientLoginStart random password) .loginStart⟩)
  | deliver (id : CallId) (request : RequestId) (admissionKey : String) (now : Nat)
      (accountId : Id) (password : Bytes) (leg : Leg) (clientMessage : Bytes) (auth : AuthSystem)
      (posted : clients.calls id = some ⟨accountId, password, .posted leg clientMessage⟩)
      (arrived : clients.auth.step config binding registration
        (arrival accountId request admissionKey now leg clientMessage) = some auth) :
      Stepped clients (.deliver id request admissionKey now)
        ({ clients with auth }.setCall id ⟨accountId, password, .waiting leg request⟩)
  | receive (id : CallId) (random : Nat → UInt8) (accountId : Id) (password : Bytes) (leg : Leg)
      (request : RequestId) (reply : Reply)
      (waiting : clients.calls id = some ⟨accountId, password, .waiting leg request⟩)
      (answered : answerOf clients.auth leg request = some reply) :
      Stepped clients (.receive id random)
        (clients.setCall id ⟨accountId, password, resume client random password leg reply⟩)
  | networkError (id : CallId) (call : Call) (known : clients.calls id = some call) :
      Stepped clients (.networkError id) (clients.setCall id { call with phase := .rejected })
  | server (action : AuthAction) (auth : AuthSystem)
      (stepped : clients.auth.step config binding registration action = some auth) :
      Stepped clients (.server action) { clients with auth }

variable {config binding registration client}

theorem step_cases {clients next : AuthClients} {action : ClientAction}
    (stepped : clients.step config binding registration client action = some next) :
    Stepped config binding registration client clients action next := by
  cases action with
  | register id accountId password random =>
      cases fresh : clients.calls id with
      | some => simp [step, fresh] at stepped
      | none =>
          simp only [step, fresh, Option.some.injEq] at stepped
          subst stepped
          exact .register id accountId password random fresh
  | login id accountId password random =>
      cases fresh : clients.calls id with
      | some => simp [step, fresh] at stepped
      | none =>
          simp only [step, fresh, Option.some.injEq] at stepped
          subst stepped
          exact .login id accountId password random fresh
  | deliver id request admissionKey now =>
      simp only [step] at stepped
      split at stepped
      next accountId password leg clientMessage posted =>
        rw [Option.map_eq_some_iff] at stepped
        obtain ⟨auth, arrived, rfl⟩ := stepped
        exact .deliver id request admissionKey now accountId password leg clientMessage auth posted
          arrived
      · cases stepped
  | receive id random =>
      simp only [step] at stepped
      split at stepped
      next accountId password leg request waiting =>
        rw [Option.map_eq_some_iff] at stepped
        obtain ⟨reply, answered, rfl⟩ := stepped
        exact .receive id random accountId password leg request reply waiting answered
      · cases stepped
  | networkError id =>
      simp only [step] at stepped
      split at stepped
      next known =>
        cases stepped
        exact .networkError id _ known
      next known =>
        cases stepped
        exact .networkError id _ known
      · cases stepped
  | server action =>
      simp only [step, Option.map_eq_some_iff] at stepped
      obtain ⟨auth, stepped, rfl⟩ := stepped
      exact .server action auth stepped

theorem setCall_self (clients : AuthClients) (id : CallId) (call : Call) :
    (clients.setCall id call).calls id = some call := Function.update_self ..

theorem setCall_of_ne {clients : AuthClients} {id other : CallId} {call : Call}
    (apart : other ≠ id) : (clients.setCall id call).calls other = clients.calls other :=
  Function.update_of_ne apart _ _

end AuthClients

def Responds (config : LoginConfig) (registration : RegistrationBinding) (request : RegisterRequest)
    (phase : RegisterPhase) : Prop :=
  ∀ bytes, phase = .answered (.message bytes) →
    ∃ login, readRegister config.backend request.body = .ok login ∧
      (login.message.length = registrationRequestLength →
        registration.serverRegistrationStart login.message login.accountId = some bytes)

section Responds

variable {config : LoginConfig} {binding : OpaqueBinding} {registration : RegistrationBinding}
  {client : OpaqueClient} {request : RegisterRequest} {server : LoginServer}

theorem registrationStep_start {accountId : Id} {clientMessage message : Bytes}
    (made : registrationStep registration accountId clientMessage = some (.response message)) :
    registration.serverRegistrationStart clientMessage accountId = some message := by
  unfold registrationStep at made
  split at made
  · simpa using made
  · simp at made

theorem readRegister_ne_message (backend : Backend) (body : LoginBody) (bytes : Bytes) :
    readRegister backend body ≠ .error (.message bytes) := by
  intro read
  unfold readRegister at read
  split at read
  · cases backend <;> cases read
  · split at read
    · cases read
    · split at read
      · cases read
      · cases read
  · cases read

theorem responds_silent {phase : RegisterPhase}
    (silent : ∀ bytes, phase ≠ .answered (.message bytes)) :
    Responds config registration request phase :=
  fun bytes answered => absurd answered (silent bytes)

theorem performRegister_responds {surroundings : Surroundings} {registerLimits : Id → Windows}
    {phase : RegisterPhase} (fits : Fits config registration request server.credentials phase)
    (responds : Responds config registration request phase) :
    Responds config registration request
      (performRegister config registration surroundings server registerLimits phase).phase := by
  cases phase with
  | registrationStep login =>
      simp only [performRegister]
      split
      · exact responds_silent fun _ same => by cases same
      · split
        · exact responds_silent fun _ same => by cases same
        · exact responds_silent fun _ same => by cases same
  | ensureAccount login step =>
      simp only [performRegister]
      split
      · cases config.backend <;> exact responds_silent fun _ same => by cases same
      · exact responds_silent fun _ same => by cases same
  | checkAndIncrement login step =>
      simp only [performRegister]
      split
      · cases config.backend <;> exact responds_silent fun _ same => by cases same
      · dsimp only
        split
        · cases step with
          | response message =>
              rintro bytes ⟨⟩
              exact ⟨login, fits.1, fun _ => registrationStep_start fits.2⟩
          | record record => exact responds_silent fun _ same => by cases same
        · exact responds_silent fun _ same => by cases same
  | saveCredentialRecord login record =>
      simp only [performRegister]
      split
      · cases config.backend <;> exact responds_silent fun _ same => by cases same
      · intro bytes _
        exact ⟨login, fits.1, fun short => absurd short (registrationStep_record.mp fits.2).1⟩
  | answered answer => exact responds
  | dropped => exact responds_silent fun _ same => by cases same

end Responds

namespace AuthSystem

variable {config : LoginConfig} {binding : OpaqueBinding} {registration : RegistrationBinding}
  {system next : AuthSystem}

theorem requests_step {action : AuthAction}
    (stepped : system.step config binding registration action = some next) (id : RequestId)
    (request : RegisterRequest) (known : next.requests id = some request) :
    system.requests id = some request ∨ ∃ now, action = .arriveRegister id request now := by
  cases action with
  | arriveLogin | advanceLogin =>
      simp only [step, login, Option.map_eq_some_iff] at stepped
      obtain ⟨logins, -, rfl⟩ := stepped
      exact .inl known
  | arriveRegister other request' now =>
      simp only [step] at stepped
      split at stepped
      · cases stepped
      · cases stepped
        by_cases same : id = other
        · subst same
          change Function.update system.requests id (some request') id = some request at known
          rw [Function.update_self, Option.some.injEq] at known
          subst known
          exact .inr ⟨now, rfl⟩
        · exact .inl ((Function.update_of_ne same _ _).symm.trans known)
  | advanceRegister =>
      simp only [step, Option.map_eq_some_iff] at stepped
      obtain ⟨phase, -, rfl⟩ := stepped
      exact .inl known
  | restart =>
      simp only [step, login, Option.map_eq_some_iff] at stepped
      obtain ⟨restarted, ⟨logins, -, rfl⟩, rfl⟩ := stepped
      exact .inl known

theorem arriveRegister_requests {id : RequestId} {request : RegisterRequest} {now : Nat}
    (stepped : system.step config binding registration (.arriveRegister id request now) = some next) :
    next.requests id = some request := by
  simp only [step] at stepped
  split at stepped
  · cases stepped
  · cases stepped
    exact Function.update_self id (some request) system.requests

def AllRespond (config : LoginConfig) (registration : RegistrationBinding) (system : AuthSystem) :
    Prop :=
  ∀ id request phase, system.requests id = some request → system.phases id = some phase →
    Responds config registration request phase

theorem allRespond_step (action : AuthAction)
    (consistent : Consistent config binding registration system)
    (responding : AllRespond config registration system)
    (stepped : system.step config binding registration action = some next) :
    AllRespond config registration next ∧
      ∀ id request, system.requests id = some request → next.requests id = some request := by
  cases action with
  | arriveLogin id request now =>
      simp only [step, login, Option.map_eq_some_iff] at stepped
      obtain ⟨logins, -, rfl⟩ := stepped
      exact ⟨responding, fun _ _ came => came⟩
  | advanceLogin id surroundings =>
      simp only [step, login, Option.map_eq_some_iff] at stepped
      obtain ⟨logins, -, rfl⟩ := stepped
      exact ⟨responding, fun _ _ came => came⟩
  | arriveRegister id request now =>
      simp only [step] at stepped
      cases fresh : system.phases id with
      | some => simp [fresh] at stepped
      | none =>
          rw [fresh] at stepped
          cases stepped
          have unheard := consistent.heard id fresh
          constructor
          · intro other came phase known open'
            by_cases same : other = id
            · subst same
              change Function.update system.requests other (some request) other = some came at known
              rw [Function.update_self, Option.some.injEq] at known
              subst known
              rw [after_phases_self, Option.some.injEq] at open'
              subst open'
              unfold Auth.arriveRegister
              split
              next answer read =>
                rintro bytes ⟨⟩
                exact absurd read (readRegister_ne_message _ _ bytes)
              · dsimp only
                split
                · exact responds_silent fun _ same => by cases same
                · exact responds_silent fun _ same => by cases same
            · rw [after_phases_of_ne _ _ same] at open'
              have before : system.requests other = some came :=
                (Function.update_of_ne same _ _).symm.trans known
              exact responding other came phase before open'
          · intro other came known
            have apart : other ≠ id := by
              rintro rfl
              cases unheard.symm.trans known
            exact (Function.update_of_ne apart _ _).trans known
  | advanceRegister id surroundings =>
      simp only [step, Option.map_eq_some_iff] at stepped
      obtain ⟨phase, open', rfl⟩ := stepped
      refine ⟨?_, fun _ _ came => came⟩
      intro other came phase' known openOther
      by_cases same : other = id
      · subst same
        rw [after_phases_self, Option.some.injEq] at openOther
        subst openOther
        obtain ⟨request, asked, fits⟩ := consistent.fits other phase open'
        cases asked.symm.trans known
        exact performRegister_responds (@sweepAll_credentials system.logins.server _ ▸ fits)
          (responding other _ phase known open')
      · rw [after_phases_of_ne _ _ same] at openOther
        exact responding other came phase' known openOther
  | restart =>
      simp only [step, login, Option.map_eq_some_iff] at stepped
      obtain ⟨restarted, ⟨logins, -, rfl⟩, rfl⟩ := stepped
      refine ⟨?_, fun _ _ came => came⟩
      intro id request phase known open'
      obtain ⟨before, -, rfl⟩ := Option.map_eq_some_iff.mp open'
      exact responds_silent fun _ same => by cases same

end AuthSystem

section RecordOf

variable (registration : RegistrationBinding) (client : OpaqueClient) (accountId : Id)
  (password : Bytes)

def Uploaded (upload : Bytes) : Prop :=
  ∃ random random' request state response,
    client.clientRegistrationStart random password = some (request, state) ∧
      registration.serverRegistrationStart request accountId = some response ∧
      client.clientRegistrationFinish random' state password response = some upload

def RecordOf (record : Bytes) : Prop :=
  ∃ upload, Uploaded registration client accountId password upload ∧
    registration.serverRegistrationFinish upload = some record

end RecordOf

/-- The messages of the suite: their lengths, and that the password of the registration and no other
leads to a KE3 that the server accepts. -/
structure OpaqueLaws (binding : OpaqueBinding) (registration : RegistrationBinding)
    (client : OpaqueClient) : Prop where
  request_length : ∀ random password request state,
    client.clientRegistrationStart random password = some (request, state) →
    request.length = registrationRequestLength
  ke1_length : ∀ random password ke1 state,
    client.clientLoginStart random password = some (ke1, state) → ke1.length = ke1Length
  login : ∀ accountId password record random entered ke1 state,
    RecordOf registration client accountId password record →
    client.clientLoginStart random entered = some (ke1, state) →
    ∀ random', ∃ serverState ke2,
      binding.loginStart random' record accountId ke1 opaqueContext = some (serverState, ke2) ∧
        ∀ random'', (entered = password → ∃ ke3,
          client.clientLoginFinish random'' state entered ke2 opaqueContext = some ke3 ∧
            binding.loginFinish serverState ke3 opaqueContext = true) ∧
          (entered ≠ password →
            client.clientLoginFinish random'' state entered ke2 opaqueContext = none)

namespace AuthClients

def RegistersWith (config : LoginConfig) (accountId : Id) (password : Bytes)
    (_ : AuthClients) : ClientAction → Prop
  | .register _ asked entered _ => asked = accountId → entered = password
  | .server (.arriveRegister _ request _) =>
      ∀ login, readRegister config.backend request.body = .ok login → login.accountId ≠ accountId
  | _ => True

def Meant (registration : RegistrationBinding) (client : OpaqueClient) (accountId : Id)
    (password message : Bytes) : Prop :=
  (∃ random state, client.clientRegistrationStart random password = some (message, state)) ∨
    Uploaded registration client accountId password message

def Registers (registration : RegistrationBinding) (client : OpaqueClient) (accountId : Id)
    (password : Bytes) (auth : AuthSystem) (call : Call) : Prop :=
  match call.phase with
  | .posted (.registerStart state) message =>
      call.password = password ∧
        ∃ random, client.clientRegistrationStart random password = some (message, state)
  | .waiting (.registerStart state) id =>
      call.password = password ∧ ∃ random message admissionKey,
        client.clientRegistrationStart random password = some (message, state) ∧
          auth.requests id =
            some ⟨admissionKey, .fields (some accountId) (some (encodeB64 message))⟩
  | .posted .registerFinish message => Uploaded registration client accountId password message
  | _ => True

structure Enrolled (config : LoginConfig) (binding : OpaqueBinding)
    (registration : RegistrationBinding) (client : OpaqueClient) (accountId : Id)
    (password : Bytes) (clients : AuthClients) : Prop where
  consistent : clients.auth.Consistent config binding registration
  responding : clients.auth.AllRespond config registration
  calls : ∀ id call, clients.calls id = some call → call.accountId = accountId →
    Registers registration client accountId password clients.auth call
  requests : ∀ id request message, clients.auth.requests id = some request →
    readRegister config.backend request.body = .ok ⟨accountId, message⟩ →
    Meant registration client accountId password message

variable {config : LoginConfig} {binding : OpaqueBinding} {registration : RegistrationBinding}
  {client : OpaqueClient} {accountId : Id} {password : Bytes} {clients next : AuthClients}

theorem enrolled_initial :
    Enrolled config binding registration client accountId password initial where
  consistent := AuthSystem.consistent_initial
  responding _ _ _ known := by cases known
  calls _ _ known := by cases known
  requests _ _ _ known := by cases known

theorem Registers.later {auth after : AuthSystem} {call : Call}
    (registers : Registers registration client accountId password auth call)
    (kept : ∀ id request, auth.requests id = some request → after.requests id = some request) :
    Registers registration client accountId password after call := by
  unfold Registers at registers ⊢
  split
  next state message phase =>
    rw [phase] at registers
    exact registers
  next state id phase =>
    rw [phase] at registers
    obtain ⟨same, random, message, admissionKey, started, came⟩ := registers
    exact ⟨same, random, message, admissionKey, started, kept _ _ came⟩
  next message phase =>
    rw [phase] at registers
    exact registers
  · trivial

theorem Enrolled.server {auth : AuthSystem} {action : AuthAction}
    (enrolled : Enrolled config binding registration client accountId password clients)
    (stepped : clients.auth.step config binding registration action = some auth)
    (meant : ∀ id request now message, action = .arriveRegister id request now →
      readRegister config.backend request.body = .ok ⟨accountId, message⟩ →
      Meant registration client accountId password message) :
    Enrolled config binding registration client accountId password { clients with auth } := by
  obtain ⟨consistent, -⟩ := AuthSystem.consistent_step action enrolled.consistent stepped
  obtain ⟨responding, kept⟩ :=
    AuthSystem.allRespond_step action enrolled.consistent enrolled.responding stepped
  refine ⟨consistent, responding, ?_, ?_⟩
  · intro id call known mine
    exact (enrolled.calls id call known mine).later kept
  · intro id request message came read
    rcases AuthSystem.requests_step stepped id request came with before | ⟨now, same⟩
    · exact enrolled.requests id request message before read
    · exact meant id request now message same read

theorem Enrolled.setCall {id : CallId} {call : Call}
    (enrolled : Enrolled config binding registration client accountId password clients)
    (registers : call.accountId = accountId →
      Registers registration client accountId password clients.auth call) :
    Enrolled config binding registration client accountId password (clients.setCall id call) where
  consistent := enrolled.consistent
  responding := enrolled.responding
  requests := enrolled.requests
  calls other known found mine := by
    by_cases same : other = id
    · rw [same, setCall_self, Option.some.injEq] at found
      subst found
      exact registers mine
    · rw [setCall_of_ne same] at found
      exact enrolled.calls other known found mine

theorem readRegister_encoded (backend : Backend) {asked : Id} {message : Bytes} {login : Login}
    (read : readRegister backend (.fields (some asked) (some (encodeB64 message))) = .ok login) :
    login = ⟨asked, message⟩ := by
  simp only [readRegister, decodeB64_encodeB64] at read
  split at read
  · cases read
    rfl
  · cases read

theorem readRegister_valid {backend : Backend} {body : LoginBody} {login : Login}
    (read : readRegister backend body = .ok login) : isValidAccountId login.accountId = true := by
  unfold readRegister at read
  split at read
  · cases backend <;> cases read
  · split at read
    · cases read
    · split at read
      next valid =>
        cases read
        exact valid
      · cases read
  · cases read

theorem enrolled_step {action : ClientAction} (laws : OpaqueLaws binding registration client)
    (enrolled : Enrolled config binding registration client accountId password clients)
    (registersWith : RegistersWith config accountId password clients action)
    (stepped : clients.step config binding registration client action = some next) :
    Enrolled config binding registration client accountId password next := by
  cases step_cases stepped with
  | register id asked entered random fresh =>
      refine enrolled.setCall fun same => ?_
      have agreed : entered = password := registersWith same
      cases started : client.clientRegistrationStart random entered with
      | none => trivial
      | some result => exact ⟨agreed, random, agreed ▸ started⟩
  | login id asked entered random fresh =>
      refine enrolled.setCall fun same => ?_
      cases client.clientLoginStart random entered with
      | none => trivial
      | some result => trivial
  | deliver id request admissionKey now asked entered leg clientMessage auth posted arrived =>
      have registers := enrolled.calls id _ posted
      have served : Enrolled config binding registration client accountId password
          { clients with auth } := by
        refine enrolled.server arrived ?_
        intro heard came at_ message same read
        cases leg with
        | loginStart | loginFinish => cases same
        | registerStart state =>
            cases same
            cases readRegister_encoded _ read
            obtain ⟨-, random, started⟩ := registers rfl
            exact .inl ⟨random, state, started⟩
        | registerFinish =>
            cases same
            cases readRegister_encoded _ read
            exact .inr (registers rfl)
      refine served.setCall fun mine => ?_
      cases leg with
      | loginStart | registerFinish | loginFinish => trivial
      | registerStart state =>
          subst mine
          obtain ⟨agreed, random, started⟩ := registers rfl
          refine ⟨agreed, random, clientMessage, admissionKey, started, ?_⟩
          exact AuthSystem.arriveRegister_requests arrived
  | receive id random asked entered leg request reply waiting answered =>
      refine enrolled.setCall fun mine => ?_
      have registers := enrolled.calls id _ waiting mine
      cases leg with
      | registerFinish | loginFinish => cases reply <;> trivial
      | loginStart state =>
          cases reply with
          | session | error => trivial
          | message response =>
              simp only [resume, goOn]
              cases client.clientLoginFinish random state entered response opaqueContext with
              | none => trivial
              | some ke3 => trivial
      | registerStart state =>
          cases reply with
          | session | error => trivial
          | message response =>
              simp only [resume, goOn]
              cases finished : client.clientRegistrationFinish random state entered response with
              | none => trivial
              | some upload =>
                  obtain ⟨agreed, random', message, admissionKey, started, came⟩ := registers
                  refine ⟨random', random, message, state, response, started, ?_, agreed ▸ finished⟩
                  obtain ⟨phase, open', is⟩ := Option.bind_eq_some_iff.mp answered
                  obtain ⟨login, read, responded⟩ :=
                    enrolled.responding request _ phase came open' response
                      (opaqueRegisterStep_message is)
                  cases readRegister_encoded _ read
                  exact responded (laws.request_length _ _ _ _ started)
  | networkError id call known => exact enrolled.setCall fun _ => trivial
  | server action auth served =>
      refine enrolled.server served ?_
      rintro id request now message rfl read
      exact absurd rfl (registersWith _ read)

/-- The record of an account that only calls with one password register is of that password. -/
theorem recordOf_run {actions : List ClientAction} {record : Bytes}
    (laws : OpaqueLaws binding registration client)
    (ran : run (step config binding registration client) initial actions = some clients)
    (registersWith : Every (step config binding registration client)
      (RegistersWith config accountId password) initial actions)
    (there : clients.auth.credentials accountId = some record) :
    RecordOf registration client accountId password record ∧ isValidAccountId accountId = true := by
  have enrolled := run_invariant (fun _ _ _ => enrolled_step laws) enrolled_initial registersWith ran
  obtain ⟨id, request, came, message, read, long, finished⟩ :=
    enrolled.consistent.uploaded accountId record there
  refine ⟨?_, readRegister_valid read⟩
  rcases enrolled.requests id request message came read with ⟨random, state, started⟩ | uploaded
  · exact absurd (laws.request_length _ _ _ _ started) long
  · exact ⟨message, uploaded, finished⟩

end AuthClients

end ZenPass.Auth
