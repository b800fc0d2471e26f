import ZenPass.Auth.UndisturbedLogin

set_option autoImplicit false

namespace ZenPass.Auth

open Wire Transition
open Sync (Id Backend)

def CallPhase.beforeKe3 : CallPhase → Bool
  | .posted (.loginStart _) _ | .waiting (.loginStart _) _ | .rejected => true
  | .posted (.registerStart _) _ | .posted .registerFinish _ | .posted .loginFinish _ => false
  | .waiting (.registerStart _) _ | .waiting .registerFinish _ | .waiting .loginFinish _ => false
  | .registered | .session .. => false

def AnswersKe1 (binding : OpaqueBinding) (accountId : Id) (record ke1 : Bytes) : LoginPhase → Prop
  | .ensureAccount login _ | .checkAndIncrement login _ | .ready login _
  | .getCredentialRecord login => login = ⟨accountId, ke1⟩
  | .loginStart login credentialRecord =>
      login = ⟨accountId, ke1⟩ ∧ credentialRecord = some record
  | .answered (.message ke2) => ∃ random serverState,
      binding.loginStart random record accountId ke1 opaqueContext = some (serverState, ke2)
  -- A server that takes the KE1 for a KE3 has no KE2 to give.
  | _ => True

section AnswersKe1

variable {config : LoginConfig} {binding : OpaqueBinding} {registration : RegistrationBinding}
  {accountId : Id} {record ke1 : Bytes} {id : RequestId} {server : LoginServer}
  {phase : LoginPhase} {surroundings : Surroundings}

theorem answersKe1_databaseError :
    AnswersKe1 binding accountId record ke1 (.answered (databaseError config.backend)) := by
  cases config.backend <;> trivial

theorem answersKe1_finishLogin (login : Login) (stateBytes : Bytes) (storedBy : RequestId) :
    AnswersKe1 binding accountId record ke1 (finishLogin binding login stateBytes storedBy) := by
  unfold finishLogin
  split
  · trivial
  · trivial

theorem answersKe1_takePending (login : Login) (now : Nat) :
    AnswersKe1 binding accountId record ke1
      (takePending config binding id login now server).phase := by
  unfold takePending
  dsimp only
  split
  · trivial
  · split
    · trivial
    · split
      · exact answersKe1_finishLogin _ _ _
      · trivial

theorem answersKe1_perform (there : server.credentials accountId = some record)
    (answers : AnswersKe1 binding accountId record ke1 phase) :
    AnswersKe1 binding accountId record ke1
      (perform config binding id surroundings server phase).phase := by
  cases phase with
  | ensureAccount login hasPending =>
      simp only [perform]
      split
      · exact answersKe1_databaseError
      · exact answers
  | checkAndIncrement login hasPending =>
      simp only [perform]
      split
      · exact answersKe1_databaseError
      · dsimp only
        split
        · exact answers
        · trivial
  | ready login hasPending =>
      simp only [perform]
      split
      · trivial
      · split
        · exact answersKe1_takePending _ _
        · exact answers
  | getCredentialRecord login =>
      cases (show login = ⟨accountId, ke1⟩ from answers)
      simp only [perform]
      split
      · exact answersKe1_databaseError
      · exact ⟨rfl, there⟩
  | loginStart login credentialRecord =>
      obtain ⟨rfl, rfl⟩ := answers
      simp only [perform]
      split
      · trivial
      next serverState ke2 started => exact ⟨surroundings.random, serverState, started⟩
  | loginFinish login stateBytes storedBy => exact answersKe1_finishLogin _ _ _
  | issueSession login storedBy =>
      simp only [perform]
      split
      · exact answersKe1_databaseError
      · trivial
  | answered answer => exact answers
  | dropped => trivial

theorem answersKe1_arrive {admissionKey : String} {now : Nat}
    (valid : isValidAccountId accountId = true) :
    AnswersKe1 binding accountId record ke1
      (arrive config ⟨admissionKey, .fields (some accountId) (some (encodeB64 ke1))⟩ now
        server).phase := by
  simp only [arrive, readLogin_encoded _ valid]
  split
  · trivial
  · split
    · exact rfl
    · trivial

theorem answersKe1_step {system next : AuthSystem} {action : AuthAction}
    (there : system.credentials accountId = some record)
    (found : system.logins.phases id = some phase)
    (answers : AnswersKe1 binding accountId record ke1 phase)
    (stepped : system.step config binding registration action = some next) :
    ∃ later, next.logins.phases id = some later ∧ AnswersKe1 binding accountId record ke1 later := by
  cases action with
  | arriveLogin other request now =>
      obtain ⟨fresh, serves⟩ := AuthSystem.arriveLogin_step stepped
      have apart : id ≠ other := by
        rintro rfl
        cases fresh.symm.trans found
      exact ⟨phase, (serves.others id apart).trans found, answers⟩
  | advanceLogin other surroundings =>
      obtain ⟨phase', found', serves⟩ := AuthSystem.advanceLogin_step stepped
      by_cases same : id = other
      · subst same
        cases found.symm.trans found'
        refine ⟨_, serves.mine, answersKe1_perform ?_ answers⟩
        exact (congrFun (sweepAll_credentials _) accountId).trans there
      · exact ⟨phase, (serves.others id same).trans found, answers⟩
  | arriveRegister other request now =>
      simp only [AuthSystem.step] at stepped
      split at stepped
      · cases stepped
      · cases stepped
        exact ⟨phase, found, answers⟩
  | advanceRegister other surroundings =>
      simp only [AuthSystem.step, Option.map_eq_some_iff] at stepped
      obtain ⟨registering, -, rfl⟩ := stepped
      exact ⟨phase, found, answers⟩
  | restart =>
      simp only [AuthSystem.step, AuthSystem.login, LoginSystem.step, Option.map_some,
        Option.some.injEq] at stepped
      subst stepped
      refine ⟨.dropped, ?_, trivial⟩
      exact Option.map_eq_some_iff.mpr ⟨phase, found, rfl⟩

end AnswersKe1

theorem opaqueLoginStep_message {phase : LoginPhase} {bytes : Bytes}
    (answered : opaqueLoginStep phase = some (.message bytes)) :
    phase = .answered (.message bytes) := by
  unfold opaqueLoginStep at answered
  split at answered
  · rw [readMessage_eq] at answered
    cases answered
    rfl
  all_goals cases answered

/-- A login call with another password than that of the record. -/
inductive Mistaken (binding : OpaqueBinding) (client : OpaqueClient) (accountId : Id)
    (entered record : Bytes) (auth : AuthSystem) : CallPhase → Prop where
  | posted (random : Nat → UInt8) (state ke1 : Bytes)
      (started : client.clientLoginStart random entered = some (ke1, state)) :
      Mistaken binding client accountId entered record auth (.posted (.loginStart state) ke1)
  | waiting (random : Nat → UInt8) (state ke1 : Bytes) (id : RequestId) (phase : LoginPhase)
      (started : client.clientLoginStart random entered = some (ke1, state))
      (found : auth.logins.phases id = some phase)
      (answers : AnswersKe1 binding accountId record ke1 phase) :
      Mistaken binding client accountId entered record auth (.waiting (.loginStart state) id)
  | rejected : Mistaken binding client accountId entered record auth .rejected

section Mistaken

variable {config : LoginConfig} {binding : OpaqueBinding} {registration : RegistrationBinding}
  {client : OpaqueClient} {accountId : Id} {password entered record : Bytes}
  {auth after : AuthSystem} {phase : CallPhase}

theorem Mistaken.later {action : AuthAction}
    (mistaken : Mistaken binding client accountId entered record auth phase)
    (there : auth.credentials accountId = some record)
    (stepped : auth.step config binding registration action = some after) :
    Mistaken binding client accountId entered record after phase := by
  cases mistaken with
  | posted random state ke1 started => exact .posted random state ke1 started
  | waiting random state ke1 id phase started found answers =>
      obtain ⟨later, found', answers'⟩ := answersKe1_step there found answers stepped
      exact .waiting random state ke1 id later started found' answers'
  | rejected => exact .rejected

theorem Mistaken.deliver {leg : Leg} {message : Bytes} {request : RequestId}
    {admissionKey : String} {now : Nat} (valid : isValidAccountId accountId = true)
    (mistaken : Mistaken binding client accountId entered record auth (.posted leg message))
    (arrived : auth.step config binding registration
      (AuthClients.arrival accountId request admissionKey now leg message) = some after) :
    Mistaken binding client accountId entered record after (.waiting leg request) := by
  cases mistaken with
  | posted random state ke1 started =>
      obtain ⟨-, serves⟩ := AuthSystem.arriveLogin_step arrived
      exact .waiting random state message request _ started serves.mine (answersKe1_arrive valid)

theorem Mistaken.receive {leg : Leg} {id : RequestId} {random : Nat → UInt8} {reply : Reply}
    (laws : OpaqueLaws binding registration client)
    (recordOf : RecordOf registration client accountId password record)
    (differs : entered ≠ password)
    (mistaken : Mistaken binding client accountId entered record auth (.waiting leg id))
    (answered : AuthClients.answerOf auth leg id = some reply) :
    Mistaken binding client accountId entered record auth
      (resume client random entered leg reply) := by
  cases mistaken with
  | waiting random' state ke1 id phase started found answers =>
      cases reply with
      | session | error => exact .rejected
      | message ke2 =>
          rw [AuthClients.answerOf, found] at answered
          cases opaqueLoginStep_message answered
          obtain ⟨served, serverState, responded⟩ := answers
          obtain ⟨serverState', ke2', responded', settles⟩ := laws.login accountId password record
            random' entered ke1 state recordOf started served
          rw [responded, Option.some.injEq, Prod.mk.injEq] at responded'
          obtain ⟨rfl, rfl⟩ := responded'
          simp only [resume, goOn, (settles random).2 differs]
          exact .rejected

theorem Mistaken.beforeKe3 (mistaken : Mistaken binding client accountId entered record auth phase) :
    phase.beforeKe3 = true := by
  cases mistaken with
  | posted | waiting | rejected => rfl

end Mistaken

namespace AuthClients

/-- The server is consistent, the record is there, and the call has not sent a KE3. -/
structure ShutOut (config : LoginConfig) (binding : OpaqueBinding)
    (registration : RegistrationBinding) (client : OpaqueClient) (accountId : Id)
    (entered record : Bytes) (call : CallId) (clients : AuthClients) : Prop where
  consistent : clients.auth.Consistent config binding registration
  there : clients.auth.credentials accountId = some record
  call : ∃ phase, clients.calls call = some ⟨accountId, entered, phase⟩ ∧
    Mistaken binding client accountId entered record clients.auth phase

section ShutOut

variable {config : LoginConfig} {binding : OpaqueBinding} {registration : RegistrationBinding}
  {client : OpaqueClient} {accountId : Id} {password entered record : Bytes} {call : CallId}
  {clients next : AuthClients}

theorem ShutOut.server {auth : AuthSystem} {action : AuthAction}
    (shutOut : ShutOut config binding registration client accountId entered record call clients)
    (stepped : clients.auth.step config binding registration action = some auth) :
    ShutOut config binding registration client accountId entered record call
      { clients with auth } := by
  obtain ⟨consistent, grows⟩ := AuthSystem.consistent_step action shutOut.consistent stepped
  obtain ⟨phase, known, mistaken⟩ := shutOut.call
  exact ⟨consistent, grows accountId record shutOut.there, phase, known,
    mistaken.later shutOut.there stepped⟩

theorem ShutOut.setCall {id : CallId} {call' : Call}
    (shutOut : ShutOut config binding registration client accountId entered record call clients)
    (mine : id = call → ∃ phase, call' = ⟨accountId, entered, phase⟩ ∧
      Mistaken binding client accountId entered record clients.auth phase) :
    ShutOut config binding registration client accountId entered record call
      (clients.setCall id call') := by
  refine ⟨shutOut.consistent, shutOut.there, ?_⟩
  by_cases same : id = call
  · obtain ⟨phase, rfl, mistaken⟩ := mine same
    subst same
    exact ⟨phase, setCall_self .., mistaken⟩
  · obtain ⟨phase, known, mistaken⟩ := shutOut.call
    exact ⟨phase, (setCall_of_ne (Ne.symm same)).trans known, mistaken⟩

theorem shutOut_step {action : ClientAction} (laws : OpaqueLaws binding registration client)
    (recordOf : RecordOf registration client accountId password record)
    (valid : isValidAccountId accountId = true) (differs : entered ≠ password)
    (shutOut : ShutOut config binding registration client accountId entered record call clients)
    (stepped : clients.step config binding registration client action = some next) :
    ShutOut config binding registration client accountId entered record call next := by
  obtain ⟨phase, known, mistaken⟩ := shutOut.call
  cases step_cases stepped with
  | register id asked password' random fresh | login id asked password' random fresh =>
      refine shutOut.setCall ?_
      rintro rfl
      cases known.symm.trans fresh
  | deliver id request admissionKey now asked password' leg message auth posted arrived =>
      refine (shutOut.server arrived).setCall ?_
      rintro rfl
      cases known.symm.trans posted
      exact ⟨_, rfl, mistaken.deliver valid arrived⟩
  | receive id random asked password' leg request reply waiting answered =>
      refine shutOut.setCall ?_
      rintro rfl
      cases known.symm.trans waiting
      exact ⟨_, rfl, mistaken.receive laws recordOf differs answered⟩
  | networkError id call' known' =>
      refine shutOut.setCall ?_
      rintro rfl
      cases known.symm.trans known'
      exact ⟨_, rfl, .rejected⟩
  | server action auth served => exact shutOut.server served

/-- A login call with another password than the one of the registration: in every run from there it
sends no KE3 and gets no session. -/
theorem wrong_password_gets_nothing {before later : List ClientAction} {opened final : AuthClients}
    {random : Nat → UInt8} (laws : OpaqueLaws binding registration client)
    (ran : run (step config binding registration client) initial before = some clients)
    (registersWith : Every (step config binding registration client)
      (RegistersWith config accountId password) initial before)
    (registered : clients.auth.credentials accountId = some record) (differs : entered ≠ password)
    (came : clients.step config binding registration client (.login call accountId entered random) =
      some opened)
    (went : run (step config binding registration client) opened later = some final) :
    ∃ phase, final.calls call = some ⟨accountId, entered, phase⟩ ∧ phase.beforeKe3 = true := by
  obtain ⟨recordOf, valid⟩ := recordOf_run laws ran registersWith registered
  have consistent : clients.auth.Consistent config binding registration :=
    (run_invariant (fun _ _ _ => enrolled_step laws) enrolled_initial registersWith ran).consistent
  have opening : ShutOut config binding registration client accountId entered record call opened := by
    cases step_cases came with
    | login id asked password' random' fresh =>
        refine ⟨consistent, registered, _, setCall_self .., ?_⟩
        cases started : client.clientLoginStart random entered with
        | none => exact .rejected
        | some sent => exact .posted random sent.2 sent.1 started
  obtain ⟨phase, known, mistaken⟩ :=
    (run_preserves (fun _ _ _ => shutOut_step laws recordOf valid differs) opening went).call
  exact ⟨phase, known, mistaken.beforeKe3⟩

def malloryTries : ClientAction := .login 1 "alice" [8] fun _ => 0

def besideAlice : List ClientAction :=
  [.login 2 "alice" [7] fun _ => 0, .deliver 2 200 "::1" 2000] ++
    List.replicate 5 (.server (.advanceLogin 200 (calm 2000))) ++
    [.receive 2 fun _ => 0, .deliver 1 300 "::2" 2000] ++
    List.replicate 5 (.server (.advanceLogin 300 (calm 2000))) ++
    [.receive 1 fun _ => 0, .server .restart]

theorem wrong_password_gets_nothing_besideAlice :
    let enrolled := reached plainStep initial aliceRegisters
    let opened := reached plainStep enrolled [malloryTries]
    let final := reached plainStep opened besideAlice
    ∃ phase, final.calls 1 = some ⟨"alice", [8], phase⟩ ∧ phase.beforeKe3 = true := by
  intro enrolled opened final
  have came : plainStep enrolled malloryTries = some opened := step_reached (by decide +kernel)
  have went : run plainStep opened besideAlice = some final := run_reached (by decide +kernel)
  exact wrong_password_gets_nothing plain_laws aliceRegisters_ran aliceRegisters_with
    aliceRegisters_record (by decide) came went

end ShutOut

end AuthClients

end ZenPass.Auth
