import ZenPass.Auth.LoginSoundness

set_option autoImplicit false

namespace ZenPass.Auth

open Wire Transition
open Sync (Id Backend)

def registrationRequestLength : Nat := 32

def registrationAck : Bytes := [1]

/-- The server's side of a registration in the OPAQUE library; `none` is a failure. -/
structure RegistrationBinding where
  serverRegistrationStart : Bytes → Id → Option Bytes
  serverRegistrationFinish : Bytes → Option Bytes

inductive RegistrationStep where
  | response (message : Bytes)
  | record (record : Bytes)
deriving DecidableEq, Repr

/-- The legs are told apart by the length of the message alone. -/
def registrationStep (registration : RegistrationBinding) (accountId : Id) (clientMessage : Bytes) :
    Option RegistrationStep :=
  if clientMessage.length = registrationRequestLength then
    (registration.serverRegistrationStart clientMessage accountId).map .response
  else (registration.serverRegistrationFinish clientMessage).map .record

abbrev RegisterRequest := LoginRequest

inductive RegisterAnswer where
  | message (bytes : Bytes)
  | badRequest
  | refused (status : Nat)
  | failed
deriving DecidableEq, Repr

def readRegister (backend : Backend) : LoginBody → Except RegisterAnswer Login
  | .unreadable status =>
      match backend with
      | .node => .error (.refused status)
      | .rust => .error .badRequest
  | .fields (some accountId) (some clientMessage) =>
      match decodeB64 (backend == .rust) clientMessage with
      | none => .error .badRequest
      | some message =>
          if isValidAccountId accountId then .ok ⟨accountId, message⟩ else .error .badRequest
  | .fields _ _ => .error .badRequest

inductive RegisterPhase where
  | registrationStep (login : Login)
  | ensureAccount (login : Login) (step : RegistrationStep)
  | checkAndIncrement (login : Login) (step : RegistrationStep)
  | saveCredentialRecord (login : Login) (record : Bytes)
  | answered (answer : RegisterAnswer)
  | dropped
deriving DecidableEq, Repr

structure RegisterStep where
  server : LoginServer
  registerLimits : Id → Windows
  phase : RegisterPhase

def registerError : Backend → RegisterAnswer
  | .node => .failed
  | .rust => .badRequest

def sweepWindows (limits : Id → Windows) : Sweep → Id → Windows
  | .rateLimits cutoff => fun accountId =>
      (limits accountId).filter fun row => decide (cutoff ≤ row.1)
  | .accounts _ _ => limits

section Handler

variable (config : LoginConfig) (registration : RegistrationBinding)

def arriveRegister (request : RegisterRequest) (now : Nat) (server : LoginServer)
    (registerLimits : Id → Windows) : RegisterStep :=
  match readRegister config.backend request.body with
  | .error answer => { server, registerLimits, phase := .answered answer }
  | .ok login =>
      let allowed := server.buckets.allow request.admissionKey now config.admissionWindow
        config.admissionMax
      let server := { server with
        buckets := server.buckets.afterAllow request.admissionKey now config.admissionWindow }
      if allowed then { server, registerLimits, phase := .registrationStep login }
      else { server, registerLimits, phase := .answered .badRequest }

def withinRegisterLimit (registerLimits : Id → Windows) (accountId : Id) (now : Nat) : Bool :=
  decide ((registerLimits accountId).count (LoginServer.windowStart now config.rateLimitWindow) + 1
    ≤ config.rateLimitMax)

def incrementRegister (registerLimits : Id → Windows) (accountId : Id) (now : Nat) : Id → Windows :=
  Function.update registerLimits accountId
    ((registerLimits accountId).increment (LoginServer.windowStart now config.rateLimitWindow))

def performRegister (surroundings : Surroundings) (server : LoginServer)
    (registerLimits : Id → Windows) : RegisterPhase → RegisterStep
  | .registrationStep login =>
      -- Node awaits the binding here.
      if surroundings.failing && config.backend == .node then
        { server, registerLimits, phase := .answered .failed }
      else
        match registrationStep registration login.accountId login.message with
        | none => { server, registerLimits, phase := .answered .badRequest }
        | some step => { server, registerLimits, phase := .ensureAccount login step }
  | .ensureAccount login step =>
      if surroundings.failing then
        { server, registerLimits, phase := .answered (registerError config.backend) }
      else
        { server := server.ensureAccount login.accountId surroundings.now
          registerLimits
          phase := .checkAndIncrement login step }
  | .checkAndIncrement login step =>
      -- The foreign key refuses a counter of an account without a row.
      if surroundings.failing || (server.accounts login.accountId).isNone then
        { server, registerLimits, phase := .answered (registerError config.backend) }
      else
        { server
          registerLimits := incrementRegister config registerLimits login.accountId surroundings.now
          phase :=
            if withinRegisterLimit config registerLimits login.accountId surroundings.now then
              match step with
              | .response message => .answered (.message message)
              | .record record => .saveCredentialRecord login record
            else .answered .badRequest }
  | .saveCredentialRecord login record =>
      -- A record that is there leaves nothing to insert, and no key to check.
      if surroundings.failing ||
          ((server.credentials login.accountId).isNone &&
            (server.accounts login.accountId).isNone) then
        { server, registerLimits, phase := .answered (registerError config.backend) }
      else
        { server := server.saveCredentialRecordIfAbsent login.accountId record
          registerLimits
          phase := .answered (.message registrationAck) }
  | .answered answer => { server, registerLimits, phase := .answered answer }
  | .dropped => { server, registerLimits, phase := .dropped }

def advanceRegister (surroundings : Surroundings) (server : LoginServer)
    (registerLimits : Id → Windows) (phase : RegisterPhase) : RegisterStep :=
  performRegister config registration surroundings (server.sweepAll surroundings.sweeps)
    (surroundings.sweeps.foldl sweepWindows registerLimits) phase

end Handler

structure AuthSystem where
  logins : LoginSystem
  registerLimits : Id → Windows
  requests : RequestId → Option RegisterRequest
  phases : RequestId → Option RegisterPhase

inductive AuthAction where
  | arriveLogin (id : RequestId) (request : LoginRequest) (now : Nat)
  | advanceLogin (id : RequestId) (surroundings : Surroundings)
  | arriveRegister (id : RequestId) (request : RegisterRequest) (now : Nat)
  | advanceRegister (id : RequestId) (surroundings : Surroundings)
  | restart

namespace AuthSystem

def initial : AuthSystem where
  logins := .initial
  registerLimits := fun _ => []
  requests := fun _ => none
  phases := fun _ => none

def credentials (system : AuthSystem) : Id → Option Bytes := system.logins.server.credentials

def after (system : AuthSystem) (id : RequestId) (stepped : RegisterStep) : AuthSystem :=
  { system with
    logins := { system.logins with server := stepped.server }
    registerLimits := stepped.registerLimits
    phases := Function.update system.phases id (some stepped.phase) }

variable (config : LoginConfig) (binding : OpaqueBinding) (registration : RegistrationBinding)

def login (system : AuthSystem) (sweeps : List Sweep) (action : LoginAction) : Option AuthSystem :=
  (system.logins.step config binding action).map fun logins =>
    { system with logins, registerLimits := sweeps.foldl sweepWindows system.registerLimits }

def step (system : AuthSystem) : AuthAction → Option AuthSystem
  | .arriveLogin id request now => system.login config binding [] (.arrive id request now)
  | .advanceLogin id surroundings =>
      system.login config binding surroundings.sweeps (.advance id surroundings)
  | .arriveRegister id request now =>
      match system.phases id with
      | some _ => none
      | none =>
          some ({ system with
            requests := Function.update system.requests id (some request) }.after id
              (Auth.arriveRegister config request now system.logins.server system.registerLimits))
  | .advanceRegister id surroundings =>
      (system.phases id).map fun phase =>
        system.after id (Auth.advanceRegister config registration surroundings system.logins.server
          system.registerLimits phase)
  | .restart =>
      (system.login config binding [] .restart).map fun restarted =>
        { restarted with phases := fun id => (system.phases id).map fun _ => .dropped }

end AuthSystem

theorem registrationStep_response {registration : RegistrationBinding} {accountId : Id}
    {clientMessage message : Bytes}
    (made : registrationStep registration accountId clientMessage = some (.response message)) :
    clientMessage.length = registrationRequestLength := by
  unfold registrationStep at made
  split at made
  · assumption
  · simp at made

theorem registrationStep_record {registration : RegistrationBinding} {accountId : Id}
    {clientMessage record : Bytes} :
    registrationStep registration accountId clientMessage = some (.record record) ↔
      clientMessage.length ≠ registrationRequestLength ∧
        registration.serverRegistrationFinish clientMessage = some record := by
  unfold registrationStep
  split
  · simp_all
  · simp_all

def Uploads (config : LoginConfig) (registration : RegistrationBinding) (request : RegisterRequest)
    (accountId : Id) (record : Bytes) : Prop :=
  ∃ message, readRegister config.backend request.body = .ok ⟨accountId, message⟩ ∧
    message.length ≠ registrationRequestLength ∧
    registration.serverRegistrationFinish message = some record

def Fits (config : LoginConfig) (registration : RegistrationBinding) (request : RegisterRequest)
    (credentials : Id → Option Bytes) : RegisterPhase → Prop
  | .registrationStep login => readRegister config.backend request.body = .ok login
  | .ensureAccount login step | .checkAndIncrement login step =>
      readRegister config.backend request.body = .ok login ∧
        registrationStep registration login.accountId login.message = some step
  | .saveCredentialRecord login record =>
      readRegister config.backend request.body = .ok login ∧
        registrationStep registration login.accountId login.message = some (.record record)
  | .answered (.message _) => ∀ login, readRegister config.backend request.body = .ok login →
      login.message.length ≠ registrationRequestLength →
      (credentials login.accountId).isSome = true
  | .answered _ | .dropped => True

/-- The login states are left alone, records stay, and a new one is what the request uploads. -/
structure Registered (config : LoginConfig) (registration : RegistrationBinding)
    (request : RegisterRequest) (server : LoginServer) (stepped : RegisterStep) : Prop where
  states : stepped.server.states = server.states
  kept : ∀ accountId record, server.credentials accountId = some record →
    stepped.server.credentials accountId = some record
  written : ∀ accountId record, stepped.server.credentials accountId = some record →
    server.credentials accountId = some record ∨
      Uploads config registration request accountId record
  fits : Fits config registration request stepped.server.credentials stepped.phase

section Steps

variable {config : LoginConfig} {registration : RegistrationBinding} {request : RegisterRequest}
  {server : LoginServer}

theorem Fits.grows {credentials after : Id → Option Bytes} {phase : RegisterPhase}
    (fits : Fits config registration request credentials phase)
    (kept : ∀ accountId record, credentials accountId = some record →
      after accountId = some record) : Fits config registration request after phase := by
  cases phase with
  | answered answer =>
      cases answer with
      | message bytes =>
          intro login read upload
          obtain ⟨record, here⟩ := Option.isSome_iff_exists.mp (fits login read upload)
          exact Option.isSome_iff_exists.mpr ⟨record, kept _ _ here⟩
      | badRequest | refused | failed => trivial
  | registrationStep | ensureAccount | checkAndIncrement | saveCredentialRecord => exact fits
  | dropped => trivial

theorem registered_quiet {stepped : RegisterStep} (states : stepped.server.states = server.states)
    (credentials : stepped.server.credentials = server.credentials)
    (fits : Fits config registration request server.credentials stepped.phase) :
    Registered config registration request server stepped where
  states := states
  kept accountId _ here := (congrFun credentials accountId).trans here
  written accountId _ here := .inl ((congrFun credentials accountId).symm.trans here)
  fits := credentials ▸ fits

theorem arriveRegister_registered (now : Nat) (registerLimits : Id → Windows) :
    Registered config registration request server
      (arriveRegister config request now server registerLimits) := by
  unfold arriveRegister
  cases read : readRegister config.backend request.body with
  | error answer =>
      refine registered_quiet rfl rfl ?_
      cases answer with
      | message bytes =>
          intro login taken
          rw [read] at taken
          cases taken
      | badRequest | refused | failed => trivial
  | ok login =>
      dsimp only
      split
      · exact registered_quiet rfl rfl read
      · exact registered_quiet rfl rfl trivial

theorem saveCredential_registered {login : Login} {record : Bytes} (registerLimits : Id → Windows)
    (read : readRegister config.backend request.body = .ok login)
    (made : registrationStep registration login.accountId login.message = some (.record record)) :
    Registered config registration request server
      ⟨server.saveCredentialRecordIfAbsent login.accountId record, registerLimits,
        .answered (.message registrationAck)⟩ := by
  obtain ⟨upload, finished⟩ := registrationStep_record.mp made
  have there : (server.saveCredentialRecordIfAbsent login.accountId record).credentials
      login.accountId = some ((server.credentials login.accountId).getD record) :=
    Function.update_self ..
  have others (other : Id) (apart : other ≠ login.accountId) :
      (server.saveCredentialRecordIfAbsent login.accountId record).credentials other
        = server.credentials other := Function.update_of_ne apart _ _
  constructor
  · rfl
  · intro accountId known here
    by_cases same : accountId = login.accountId
    · subst same
      rw [there, here, Option.getD_some]
    · rw [others accountId same, here]
  · intro accountId known here
    by_cases same : accountId = login.accountId
    · subst same
      rw [there] at here
      cases before : server.credentials login.accountId with
      | some first =>
          rw [before, Option.getD_some] at here
          exact .inl here
      | none =>
          rw [before, Option.getD_none] at here
          cases here
          exact .inr ⟨login.message, read, upload, finished⟩
    · rw [others accountId same] at here
      exact .inl here
  · intro other taken _
    rw [read] at taken
    cases taken
    rw [there]
    rfl

theorem performRegister_registered (surroundings : Surroundings) (registerLimits : Id → Windows)
    {phase : RegisterPhase} (fits : Fits config registration request server.credentials phase) :
    Registered config registration request server
      (performRegister config registration surroundings server registerLimits phase) := by
  have failed : Fits config registration request server.credentials
      (.answered (registerError config.backend)) := by
    unfold registerError
    cases config.backend <;> trivial
  cases phase with
  | registrationStep login =>
      simp only [performRegister]
      split
      · exact registered_quiet rfl rfl trivial
      · cases made : registrationStep registration login.accountId login.message with
        | none => exact registered_quiet rfl rfl trivial
        | some step => exact registered_quiet rfl rfl ⟨fits, made⟩
  | ensureAccount login step =>
      simp only [performRegister]
      split
      · exact registered_quiet rfl rfl failed
      · exact registered_quiet rfl rfl fits
  | checkAndIncrement login step =>
      obtain ⟨read, made⟩ := fits
      simp only [performRegister]
      split
      · exact registered_quiet rfl rfl failed
      · refine registered_quiet rfl rfl ?_
        dsimp only
        split
        · cases step with
          | response message =>
              -- the first leg has the other length
              intro other taken upload
              rw [read] at taken
              cases taken
              exact absurd (registrationStep_response made) upload
          | record => exact ⟨read, made⟩
        · trivial
  | saveCredentialRecord login =>
      simp only [performRegister]
      split
      · exact registered_quiet rfl rfl failed
      · exact saveCredential_registered registerLimits fits.1 fits.2
  | answered answer => exact registered_quiet rfl rfl fits
  | dropped => exact registered_quiet rfl rfl trivial

theorem advanceRegister_registered (surroundings : Surroundings) (registerLimits : Id → Windows)
    {phase : RegisterPhase} (fits : Fits config registration request server.credentials phase) :
    Registered config registration request server
      (advanceRegister config registration surroundings server registerLimits phase) := by
  have credentials := @sweepAll_credentials server surroundings.sweeps
  have performed := @performRegister_registered config registration request
    (server.sweepAll surroundings.sweeps) surroundings
    (surroundings.sweeps.foldl sweepWindows registerLimits) phase (credentials ▸ fits)
  constructor
  · exact performed.states.trans (sweepAll_states _)
  · intro accountId record here
    exact performed.kept accountId record ((congrFun credentials accountId).trans here)
  · intro accountId record here
    rcases performed.written accountId record here with before | uploads
    · exact .inl ((congrFun credentials accountId).symm.trans before)
    · exact .inr uploads
  · exact performed.fits

end Steps

section Logins

variable {config : LoginConfig} {binding : OpaqueBinding}

theorem Performed.credentials {id : RequestId} {server : LoginServer} {phase : LoginPhase}
    {stepped : LoginStep} (performed : Performed config binding id server phase stepped) :
    stepped.server.credentials = server.credentials := by
  cases performed with
  | quiet _ _ _ _ credentials _ => exact credentials
  | storedFake | storedReal | tookNothing | tookFake | tookReal | finished | issued => rfl

theorem login_credentials {system next : LoginSystem} {action : LoginAction}
    (stepped : system.step config binding action = some next)
    (login : ∀ accountId record, action ≠ .register accountId record) :
    next.server.credentials = system.server.credentials := by
  cases action with
  | arrive id request now =>
      simp only [LoginSystem.step] at stepped
      split at stepped
      · cases stepped
      · cases stepped
        exact (arrive_cases config request now system.server).2.1
  | advance id surroundings =>
      simp only [LoginSystem.step, Option.map_eq_some_iff] at stepped
      obtain ⟨phase, -, rfl⟩ := stepped
      have performed := @perform_cases config binding (system.server.sweepAll surroundings.sweeps) id
        surroundings phase
      exact performed.credentials.trans (sweepAll_credentials _)
  | register accountId record => exact absurd rfl (login accountId record)
  | restart =>
      cases stepped
      rfl

end Logins

namespace AuthSystem

variable {config : LoginConfig} {binding : OpaqueBinding} {registration : RegistrationBinding}

structure Consistent (config : LoginConfig) (binding : OpaqueBinding)
    (registration : RegistrationBinding) (system : AuthSystem) : Prop where
  logins : system.logins.Sound config binding
  uploaded : ∀ accountId record, system.credentials accountId = some record →
    ∃ id request, system.requests id = some request ∧
      Uploads config registration request accountId record
  fits : ∀ id phase, system.phases id = some phase → ∃ request,
    system.requests id = some request ∧
      Fits config registration request system.credentials phase
  heard : ∀ id, system.phases id = none → system.requests id = none

theorem consistent_initial : Consistent config binding registration initial where
  logins := LoginSystem.sound_initial
  uploaded accountId record here := by cases here
  fits id phase open' := by cases open'
  heard id _ := rfl

theorem Consistent.login {system next : AuthSystem}
    (consistent : Consistent config binding registration system) {action : LoginAction}
    (login : ∀ accountId record, action ≠ .register accountId record)
    (stepped : system.logins.step config binding action = some next.logins)
    (requests : next.requests = system.requests)
    (phases : next.phases = system.phases ∨
      next.phases = fun id => (system.phases id).map fun _ => .dropped) :
    Consistent config binding registration next := by
  have credentials : next.credentials = system.credentials := login_credentials stepped login
  constructor
  · exact LoginSystem.sound_step action next.logins consistent.logins stepped
  · intro accountId record here
    rw [credentials] at here
    rw [requests]
    exact consistent.uploaded accountId record here
  · intro id phase open'
    rw [requests, credentials]
    rcases phases with same | dropped
    · exact consistent.fits id phase (same ▸ open')
    · rw [dropped, Option.map_eq_some_iff] at open'
      obtain ⟨before, here, rfl⟩ := open'
      obtain ⟨request, came, -⟩ := consistent.fits id before here
      exact ⟨request, came, trivial⟩
  · intro id absent
    rw [requests]
    apply consistent.heard id
    rcases phases with same | dropped
    · exact same ▸ absent
    · simpa [dropped] using absent

theorem after_phases_self (system : AuthSystem) (id : RequestId) (stepped : RegisterStep) :
    (system.after id stepped).phases id = some stepped.phase := Function.update_self ..

theorem after_phases_of_ne (system : AuthSystem) {id other : RequestId} (stepped : RegisterStep)
    (apart : other ≠ id) : (system.after id stepped).phases other = system.phases other :=
  Function.update_of_ne apart _ _

theorem Consistent.after {system : AuthSystem}
    (consistent : Consistent config binding registration system) {id : RequestId}
    {request : RegisterRequest} {requests : RequestId → Option RegisterRequest}
    {stepped : RegisterStep} (mine : requests id = some request)
    (others : ∀ other, other ≠ id → requests other = system.requests other)
    (before : system.requests id = none ∨ system.requests id = some request)
    (registered : Registered config registration request system.logins.server stepped) :
    Consistent config binding registration ({ system with requests }.after id stepped) := by
  have kept (other : RequestId) (known : RegisterRequest)
      (came : system.requests other = some known) : requests other = some known := by
    by_cases same : other = id
    · subst same
      rcases before with absent | here
      · rw [absent] at came
        cases came
      · rw [mine, ← here, came]
    · rw [others other same, came]
  constructor
  · refine consistent.logins.outside rfl rfl registered.kept ?_ (.inl rfl)
    intro accountId entry found
    exact registered.states ▸ found
  · intro accountId record here
    rcases registered.written accountId record here with old | uploads
    · obtain ⟨other, known, came, uploads⟩ := consistent.uploaded accountId record old
      exact ⟨other, known, kept other known came, uploads⟩
    · exact ⟨id, request, mine, uploads⟩
  · intro other phase open'
    by_cases same : other = id
    · subst same
      rw [after_phases_self] at open'
      cases open'
      exact ⟨request, mine, registered.fits⟩
    · rw [after_phases_of_ne _ _ same] at open'
      obtain ⟨known, came, fits⟩ := consistent.fits other phase open'
      exact ⟨known, kept other known came, fits.grows registered.kept⟩
  · intro other absent
    by_cases same : other = id
    · subst same
      rw [after_phases_self] at absent
      cases absent
    · rw [after_phases_of_ne _ _ same] at absent
      exact (others other same).trans (consistent.heard other absent)

def Grows (system next : AuthSystem) : Prop :=
  ∀ accountId record, system.credentials accountId = some record →
    next.credentials accountId = some record

theorem consistent_step {system next : AuthSystem} (action : AuthAction)
    (consistent : Consistent config binding registration system)
    (stepped : system.step config binding registration action = some next) :
    Consistent config binding registration next ∧ system.Grows next := by
  cases action with
  | arriveLogin id request now =>
      simp only [step, login, Option.map_eq_some_iff] at stepped
      obtain ⟨logins, stepped, rfl⟩ := stepped
      have same := login_credentials stepped (by rintro _ _ ⟨⟩)
      refine ⟨consistent.login (by rintro _ _ ⟨⟩) stepped rfl (.inl rfl), ?_⟩
      exact fun accountId record here => (congrFun same accountId).trans here
  | advanceLogin id surroundings =>
      simp only [step, login, Option.map_eq_some_iff] at stepped
      obtain ⟨logins, stepped, rfl⟩ := stepped
      have same := login_credentials stepped (by rintro _ _ ⟨⟩)
      refine ⟨consistent.login (by rintro _ _ ⟨⟩) stepped rfl (.inl rfl), ?_⟩
      exact fun accountId record here => (congrFun same accountId).trans here
  | arriveRegister id request now =>
      simp only [step] at stepped
      cases fresh : system.phases id with
      | some => simp [fresh] at stepped
      | none =>
          rw [fresh] at stepped
          cases stepped
          have registered := @arriveRegister_registered config registration request
            system.logins.server now system.registerLimits
          refine ⟨consistent.after (Function.update_self ..) ?_ (.inl (consistent.heard id fresh))
            registered, registered.kept⟩
          exact fun other apart => Function.update_of_ne apart _ _
  | advanceRegister id surroundings =>
      simp only [step, Option.map_eq_some_iff] at stepped
      obtain ⟨phase, open', rfl⟩ := stepped
      obtain ⟨request, came, fits⟩ := consistent.fits id phase open'
      have registered := advanceRegister_registered surroundings system.registerLimits fits
      exact ⟨consistent.after came (fun _ _ => rfl) (.inr came) registered, registered.kept⟩
  | restart =>
      simp only [step, login, Option.map_eq_some_iff] at stepped
      obtain ⟨restarted, ⟨logins, stepped, rfl⟩, rfl⟩ := stepped
      have same := login_credentials stepped (by rintro _ _ ⟨⟩)
      refine ⟨consistent.login (by rintro _ _ ⟨⟩) stepped rfl (.inr rfl), ?_⟩
      exact fun accountId record here => (congrFun same accountId).trans here

theorem consistent_run {system next : AuthSystem} {actions : List AuthAction}
    (consistent : Consistent config binding registration system)
    (ran : run (step config binding registration) system actions = some next) :
    Consistent config binding registration next ∧ system.Grows next := by
  apply run_preserves _ ⟨consistent, fun _ _ here => here⟩ ran
  intro state action later here stepped
  obtain ⟨ok, grows⟩ := consistent_step action here.1 stepped
  exact ⟨ok, fun accountId record known => grows accountId record (here.2 accountId record known)⟩

end AuthSystem

open AuthSystem LoginSystem

/-- In every run of logins and registrations a record is never replaced, and was uploaded for its
account; a registration that is answered has left a record; and every session, at whatever time, was
issued for a KE3 against a state of the one record of its account. -/
theorem registration_is_final (config : LoginConfig) (binding : OpaqueBinding)
    (registration : RegistrationBinding) (actions further : List AuthAction)
    (system final : AuthSystem)
    (ran : run (AuthSystem.step config binding registration) AuthSystem.initial actions = some system)
    (went : run (AuthSystem.step config binding registration) system further = some final) :
    (∀ accountId record, system.credentials accountId = some record →
      final.credentials accountId = some record ∧
        ∃ id request, system.requests id = some request ∧
          Uploads config registration request accountId record) ∧
    (∀ id request login bytes, final.requests id = some request →
      readRegister config.backend request.body = .ok login →
      login.message.length ≠ registrationRequestLength →
      final.phases id = some (.answered (.message bytes)) →
      ∃ record, final.credentials login.accountId = some record) ∧
    ∀ second accountId first ke3, .issued second accountId first ke3 ∈ final.logins.events →
      ∃ record stateBytes ke1 ke2 random, final.credentials accountId = some record ∧
        (∀ earlier, system.credentials accountId = some earlier → earlier = record) ∧
        final.logins.Sent config first ⟨accountId, ke1⟩ ∧
        binding.loginStart random record accountId ke1 opaqueContext = some (stateBytes, ke2) ∧
        final.logins.Sent config second ⟨accountId, ke3⟩ ∧
        binding.loginFinish stateBytes ke3 opaqueContext = true := by
  have consistent := (consistent_run consistent_initial ran).1
  obtain ⟨consistent', grows⟩ := consistent_run consistent went
  refine ⟨?_, ?_, ?_⟩
  · intro accountId record here
    exact ⟨grows accountId record here, consistent.uploaded accountId record here⟩
  · intro id request login bytes came read upload answered
    obtain ⟨known, came', fits⟩ := consistent'.fits id _ answered
    cases came.symm.trans came'
    exact Option.isSome_iff_exists.mp (fits login read upload)
  · intro second accountId first ke3 issued
    obtain ⟨before, after, split⟩ := List.append_of_mem issued
    obtain ⟨stateBytes, storedAt, takenAt, stored, taken, inTime, accepted⟩ :=
      consistent'.logins.explained before _ after split
    have member : .stored first accountId (.real stateBytes) storedAt ∈ final.logins.events := by
      rw [split]
      exact List.mem_append_left _ stored
    obtain ⟨ke1, record, random, ke2, sent, known, started⟩ := consistent'.logins.supported _ member
    refine ⟨record, stateBytes, ke1, ke2, random, known, ?_, sent, started,
      consistent'.logins.supported _ issued, accepted⟩
    intro earlier here
    exact Option.some.inj ((grows accountId earlier here).symm.trans known)

section Sample

def sampleRegistration : RegistrationBinding where
  serverRegistrationStart message _ := some (message ++ message)
  serverRegistrationFinish upload := if upload.length = 192 then some upload else none

def upload (byte : UInt8) : LoginRequest := loginRequest (List.replicate 192 byte)

def registers (id : RequestId) (byte : UInt8) : List AuthAction :=
  .arriveRegister id (upload byte) 0 :: List.replicate 4 (.advanceRegister id (calm 0))

def ownerLogsIn : List AuthAction :=
  registers 1 8 ++
    .arriveLogin 0 (loginRequest (List.replicate ke1Length 0)) 0 ::
      List.replicate 5 (.advanceLogin 0 (calm 0)) ++
    .arriveLogin 1 (loginRequest (List.replicate 192 7)) 1 ::
      List.replicate 5 (.advanceLogin 1 (calm 1))

theorem registration_is_final_again :
    ∃ system final,
      run (AuthSystem.step (sampleConfig .node) sampleBinding sampleRegistration) AuthSystem.initial
        (registers 0 7) = some system ∧
      run (AuthSystem.step (sampleConfig .node) sampleBinding sampleRegistration) system ownerLogsIn
        = some final ∧
      final.phases 1 = some (.answered (.message registrationAck)) ∧
      final.credentials "alice" = some (List.replicate 192 7) := by
  have evaluated : (run (AuthSystem.step (sampleConfig .node) sampleBinding sampleRegistration)
        AuthSystem.initial (registers 0 7 ++ ownerLogsIn)).isSome = true ∧
      (reached (AuthSystem.step (sampleConfig .node) sampleBinding sampleRegistration)
        AuthSystem.initial (registers 0 7)).credentials "alice" = some (List.replicate 192 7) ∧
      (reached (AuthSystem.step (sampleConfig .node) sampleBinding sampleRegistration)
        AuthSystem.initial (registers 0 7 ++ ownerLogsIn)).phases 1 =
          some (.answered (.message registrationAck)) := by decide +kernel
  obtain ⟨enabled, stored, answered⟩ := evaluated
  obtain ⟨ran, went⟩ := run_from_reached enabled
  exact ⟨_, _, ran, went, answered,
    ((registration_is_final _ _ _ _ _ _ _ ran went).1 "alice" (List.replicate 192 7) stored).1⟩

end Sample

end ZenPass.Auth
