import ZenPass.Auth.Login
import ZenPass.Lib.History

set_option autoImplicit false

namespace ZenPass.Auth

open Wire Transition History
open Sync (Id Backend)

namespace LoginEvent

def request : LoginEvent → RequestId
  | .stored request _ _ _ | .consumed request _ _ | .issued request _ _ _ => request

/-- The first leg that stored a state stands for the state. -/
def storer : LoginEvent → Option RequestId
  | .stored request _ _ _ => some request
  | .consumed _ _ _ | .issued _ _ _ _ => none

def consumedState : LoginEvent → Option RequestId
  | .consumed _ storedBy _ => some storedBy
  | .stored _ _ _ _ | .issued _ _ _ _ => none

end LoginEvent

def LoginPhase.late : LoginPhase → Bool
  | .loginFinish _ _ _ | .issueSession _ _ => true
  | _ => false

variable {config : LoginConfig} {binding : OpaqueBinding}

section Steps

variable {server : LoginServer} {id : RequestId} {surroundings : Surroundings}

structure Follows (server : LoginServer) (phase next : LoginPhase) : Prop where
  login : ∀ login, next.login = some login → phase.login = some login
  record : ∀ login record, next = .loginStart login (some record) →
    server.credentials login.accountId = some record
  early : next.late = false

inductive Performed (config : LoginConfig) (binding : OpaqueBinding) (id : RequestId)
    (server : LoginServer) : LoginPhase → LoginStep → Prop where
  | quiet (phase next : LoginPhase) (after : LoginServer) (states : after.states = server.states)
      (credentials : after.credentials = server.credentials)
      (follows : Follows server phase next) :
      Performed config binding id server phase ⟨after, next, none⟩
  | storedFake (login : Login) (now storedAt : Nat) (message : Bytes) :
      Performed config binding id server (.loginStart login none)
        ⟨{ server with
            states := server.states.set login.accountId .fake id now storedAt config.loginStateTtl },
          .answered (.message message), some (.stored id login.accountId .fake storedAt)⟩
  | storedReal (login : Login) (record stateBytes message : Bytes) (random : Nat → UInt8)
      (now storedAt : Nat)
      (started : binding.loginStart random record login.accountId login.message opaqueContext =
        some (stateBytes, message)) :
      Performed config binding id server (.loginStart login (some record))
        ⟨{ server with
            states := server.states.set login.accountId (.real stateBytes) id now storedAt
              config.loginStateTtl },
          .answered (.message message),
          some (.stored id login.accountId (.real stateBytes) storedAt)⟩
  | tookNothing (login : Login) (now : Nat) :
      Performed config binding id server (.ready login true)
        ⟨{ server with states := server.states.afterTake login.accountId now },
          .answered .unauthorized, none⟩
  | tookFake (login : Login) (now : Nat) (entry : Entry)
      (found : server.states.pendingAt login.accountId now = some entry) :
      Performed config binding id server (.ready login true)
        ⟨{ server with states := server.states.afterTake login.accountId now },
          .answered .unauthorized, some (.consumed id entry.storedBy now)⟩
  | tookReal (login : Login) (now : Nat) (entry : Entry) (stateBytes : Bytes) (next : LoginPhase)
      (found : server.states.pendingAt login.accountId now = some entry)
      (real : entry.pending = .real stateBytes)
      (continues : next = .loginFinish login stateBytes entry.storedBy ∨
        next = finishLogin binding login stateBytes entry.storedBy) :
      Performed config binding id server (.ready login true)
        ⟨{ server with states := server.states.afterTake login.accountId now }, next,
          some (.consumed id entry.storedBy now)⟩
  | finished (login : Login) (stateBytes : Bytes) (storedBy : RequestId) :
      Performed config binding id server (.loginFinish login stateBytes storedBy)
        ⟨server, finishLogin binding login stateBytes storedBy, none⟩
  | issued (login : Login) (storedBy : RequestId) (answer : LoginAnswer) :
      Performed config binding id server (.issueSession login storedBy)
        ⟨server, .answered answer,
          some (.issued id login.accountId storedBy login.message)⟩

theorem follows_answered (phase : LoginPhase) (answer : LoginAnswer) :
    Follows server phase (.answered answer) := by
  refine ⟨?_, ?_, rfl⟩
  · intro login open'
    cases open'
  · intro login record started
    cases started

theorem perform_cases (phase : LoginPhase) :
    Performed config binding id server phase
      (perform config binding id surroundings server phase) := by
  cases phase with
  | ensureAccount login hasPending =>
      simp only [perform]
      split
      · exact .quiet _ _ _ rfl rfl (follows_answered _ _)
      · exact .quiet _ _ _ rfl rfl ⟨fun _ same => same, fun _ _ next => (by cases next), rfl⟩
  | checkAndIncrement login hasPending =>
      simp only [perform]
      split
      · exact .quiet _ _ _ rfl rfl (follows_answered _ _)
      · split
        · exact .quiet _ _ _ rfl rfl ⟨fun _ same => same, fun _ _ next => (by cases next), rfl⟩
        · exact .quiet _ _ _ rfl rfl (follows_answered _ _)
  | ready login hasPending =>
      simp only [perform]
      split
      · exact .quiet _ _ _ rfl rfl (follows_answered _ _)
      · cases hasPending with
        | false =>
            exact .quiet _ _ _ rfl rfl ⟨fun _ same => same, fun _ _ next => (by cases next), rfl⟩
        | true =>
            simp only [if_true, takePending]
            cases found : server.states.pendingAt login.accountId surroundings.now with
            | none => exact .tookNothing login _
            | some entry =>
                obtain ⟨pending, expiresAt, storedBy⟩ := entry
                cases pending with
                | fake => exact .tookFake login _ _ found
                | real stateBytes =>
                    cases config.backend with
                    | node => exact .tookReal login _ _ stateBytes _ found rfl (.inr rfl)
                    | rust => exact .tookReal login _ _ stateBytes _ found rfl (.inl rfl)
  | getCredentialRecord login =>
      simp only [perform]
      split
      · exact .quiet _ _ _ rfl rfl (follows_answered _ _)
      · refine .quiet _ _ _ rfl rfl ⟨fun _ same => same, ?_, rfl⟩
        intro other record started
        injection started with same found
        rw [← same, found]
  | loginStart login credentialRecord =>
      cases credentialRecord with
      | none => exact .storedFake login _ _ _
      | some record =>
          simp only [perform]
          split
          · exact .quiet _ _ _ rfl rfl (follows_answered _ _)
          next stateBytes message started =>
            exact .storedReal login record stateBytes message _ _ _ started
  | loginFinish login stateBytes storedBy => exact .finished login stateBytes storedBy
  | issueSession login storedBy =>
      simp only [perform]
      split
      · exact .quiet _ _ _ rfl rfl (follows_answered _ _)
      · exact .issued login storedBy _
  | answered answer => exact .quiet _ _ _ rfl rfl (follows_answered _ _)
  | dropped =>
      exact .quiet _ _ _ rfl rfl
        ⟨fun _ same => same, fun _ _ next => (by cases next), rfl⟩

theorem sweep_states (sweep : Sweep) : (server.sweep sweep).states = server.states := by
  cases sweep <;> rfl

theorem sweep_credentials (sweep : Sweep) :
    (server.sweep sweep).credentials = server.credentials := by
  cases sweep <;> rfl

theorem sweepAll_states (sweeps : List Sweep) :
    (server.sweepAll sweeps).states = server.states := by
  induction sweeps generalizing server with
  | nil => rfl
  | cons sweep rest ih =>
      rw [LoginServer.sweepAll, List.foldl_cons]
      exact ih.trans (sweep_states sweep)

theorem sweepAll_credentials (sweeps : List Sweep) :
    (server.sweepAll sweeps).credentials = server.credentials := by
  induction sweeps generalizing server with
  | nil => rfl
  | cons sweep rest ih =>
      rw [LoginServer.sweepAll, List.foldl_cons]
      exact ih.trans (sweep_credentials sweep)

end Steps

def Explains (config : LoginConfig) (binding : OpaqueBinding) (before : List LoginEvent) :
    LoginEvent → Prop
  | .stored request _ _ _ => request ∉ before.filterMap LoginEvent.storer
  | .consumed _ storedBy takenAt =>
      storedBy ∉ before.filterMap LoginEvent.consumedState ∧
        ∃ accountId pending storedAt, .stored storedBy accountId pending storedAt ∈ before ∧
          takenAt < storedAt + config.loginStateTtl
  | .issued request accountId storedBy ke3 =>
      ∃ stateBytes storedAt takenAt,
        .stored storedBy accountId (.real stateBytes) storedAt ∈ before ∧
          .consumed request storedBy takenAt ∈ before ∧
          takenAt < storedAt + config.loginStateTtl ∧
          binding.loginFinish stateBytes ke3 opaqueContext = true

namespace LoginSystem

def Sent (config : LoginConfig) (system : LoginSystem) (id : RequestId) (login : Login) : Prop :=
  ∃ request, system.requests id = some request ∧
    readLogin config.backend request.body = .ok login

/-- The state is OPAQUE's, from the account's own credential record and the request's KE1. -/
def Genuine (config : LoginConfig) (binding : OpaqueBinding) (system : LoginSystem)
    (id : RequestId) (accountId : Id) (stateBytes : Bytes) : Prop :=
  ∃ ke1 record random ke2, system.Sent config id ⟨accountId, ke1⟩ ∧
    system.server.credentials accountId = some record ∧
    binding.loginStart random record accountId ke1 opaqueContext = some (stateBytes, ke2)

def Supports (config : LoginConfig) (binding : OpaqueBinding) (system : LoginSystem) :
    LoginEvent → Prop
  | .stored request accountId (.real stateBytes) _ =>
      system.Genuine config binding request accountId stateBytes
  | .stored _ _ .fake _ => True
  | .consumed _ _ _ => True
  | .issued request accountId _ ke3 => system.Sent config request ⟨accountId, ke3⟩

def Taken (config : LoginConfig) (events : List LoginEvent) (id : RequestId) (accountId : Id)
    (stateBytes : Bytes) (storedBy : RequestId) : Prop :=
  ∃ storedAt takenAt, .stored storedBy accountId (.real stateBytes) storedAt ∈ events ∧
    .consumed id storedBy takenAt ∈ events ∧ takenAt < storedAt + config.loginStateTtl

structure PhaseOk (config : LoginConfig) (binding : OpaqueBinding) (system : LoginSystem)
    (id : RequestId) (phase : LoginPhase) : Prop where
  sent : ∀ login, phase.login = some login → system.Sent config id login
  unstored : ∀ login, phase.login = some login → id ∉ system.events.filterMap LoginEvent.storer
  record : ∀ login record, phase = .loginStart login (some record) →
    system.server.credentials login.accountId = some record
  finishing : ∀ login stateBytes storedBy, phase = .loginFinish login stateBytes storedBy →
    Taken config system.events id login.accountId stateBytes storedBy
  issuing : ∀ login storedBy, phase = .issueSession login storedBy →
    ∃ stateBytes, Taken config system.events id login.accountId stateBytes storedBy ∧
      binding.loginFinish stateBytes login.message opaqueContext = true

structure Waiting (config : LoginConfig) (events : List LoginEvent) (accountId : Id)
    (entry : Entry) : Prop where
  stored : ∃ storedAt, .stored entry.storedBy accountId entry.pending storedAt ∈ events ∧
    entry.expiresAt = storedAt + config.loginStateTtl
  untaken : entry.storedBy ∉ events.filterMap LoginEvent.consumedState

structure Sound (config : LoginConfig) (binding : OpaqueBinding) (system : LoginSystem) :
    Prop where
  heard : ∀ id, system.phases id = none → system.requests id = none
  explained : Explained (Explains config binding) system.events
  supported : ∀ event ∈ system.events, system.Supports config binding event
  arrived : ∀ event ∈ system.events, system.phases event.request ≠ none
  waiting : ∀ accountId entry, system.server.states accountId = some entry →
    Waiting config system.events accountId entry
  phases : ∀ id phase, system.phases id = some phase → system.PhaseOk config binding id phase

variable {system : LoginSystem} {id : RequestId}

theorem sound_initial : Sound config binding initial where
  heard id absent := rfl
  explained := explained_nil
  supported event member := by cases member
  arrived event member := by cases member
  waiting accountId entry found := by cases found
  phases id phase open' := by cases open'

theorem Taken.grows {events more : List LoginEvent} {accountId : Id} {stateBytes : Bytes}
    {storedBy : RequestId} (taken : Taken config events id accountId stateBytes storedBy) :
    Taken config (events ++ more) id accountId stateBytes storedBy := by
  obtain ⟨storedAt, takenAt, stored, consumed, inTime⟩ := taken
  exact ⟨storedAt, takenAt, List.mem_append_left _ stored, List.mem_append_left _ consumed, inTime⟩

theorem storer_fresh (before : List LoginEvent) (event : LoginEvent) (k : RequestId)
    (explains : Explains config binding before event) (named : event.storer = some k) :
    k ∉ before.filterMap LoginEvent.storer := by
  cases event with
  | stored request _ _ _ =>
      cases named
      exact explains
  | consumed => cases named
  | issued => cases named

theorem consumedState_fresh (before : List LoginEvent) (event : LoginEvent) (k : RequestId)
    (explains : Explains config binding before event) (named : event.consumedState = some k) :
    k ∉ before.filterMap LoginEvent.consumedState := by
  cases event with
  | stored => cases named
  | consumed _ storedBy _ =>
      cases named
      exact explains.1
  | issued => cases named

theorem Sound.stored_unique (sound : Sound config binding system) {storedBy : RequestId}
    {account other : Id} {pending later : PendingLogin} {before after : Nat}
    (first : .stored storedBy account pending before ∈ system.events)
    (second : .stored storedBy other later after ∈ system.events) : account = other := by
  cases sound.explained.eq_of_key storer_fresh first second rfl rfl
  rfl

structure Later (system next : LoginSystem) (more : List LoginEvent) : Prop where
  requests : ∀ id request, system.requests id = some request → next.requests id = some request
  credentials : ∀ accountId record, system.server.credentials accountId = some record →
    next.server.credentials accountId = some record
  events : next.events = system.events ++ more

variable {next : LoginSystem} {more : List LoginEvent}

theorem Sent.later {login : Login} (sent : system.Sent config id login)
    (later : Later system next more) : next.Sent config id login := by
  obtain ⟨request, came, read⟩ := sent
  exact ⟨request, later.requests id request came, read⟩

theorem Supports.later {event : LoginEvent} (supports : system.Supports config binding event)
    (later : Later system next more) : next.Supports config binding event := by
  cases event with
  | stored request accountId pending storedAt =>
      cases pending with
      | fake => trivial
      | real stateBytes =>
          obtain ⟨ke1, record, random, ke2, sent, known, started⟩ := supports
          exact ⟨ke1, record, random, ke2, sent.later later, later.credentials _ _ known, started⟩
  | consumed => trivial
  | issued => exact Sent.later supports later

theorem PhaseOk.later {phase : LoginPhase} (ok : system.PhaseOk config binding id phase)
    (later : Later system next more) (others : id ∉ more.filterMap LoginEvent.storer) :
    next.PhaseOk config binding id phase where
  sent login read := (ok.sent login read).later later
  unstored login read := by
    rw [later.events, List.filterMap_append, List.mem_append, not_or]
    exact ⟨ok.unstored login read, others⟩
  record login record started := later.credentials _ _ (ok.record login record started)
  finishing login stateBytes storedBy started := by
    rw [later.events]
    exact (ok.finishing login stateBytes storedBy started).grows
  issuing login storedBy started := by
    obtain ⟨stateBytes, taken, finished⟩ := ok.issuing login storedBy started
    rw [later.events]
    exact ⟨stateBytes, taken.grows, finished⟩

theorem phaseOk_closed {phase : LoginPhase} (closed : phase.login = none) :
    system.PhaseOk config binding id phase where
  sent login read := by simp [closed] at read
  unstored login read := by simp [closed] at read
  record login record started := by simp [started, LoginPhase.login] at closed
  finishing login stateBytes storedBy started := by simp [started, LoginPhase.login] at closed
  issuing login storedBy started := by simp [started, LoginPhase.login] at closed

theorem Sound.after (sound : Sound config binding system)
    {requests : RequestId → Option LoginRequest} {stepped : LoginStep}
    (kept : ∀ other, other ≠ id ∨ system.phases id ≠ none → requests other = system.requests other)
    (credentials : stepped.server.credentials = system.server.credentials)
    (explains : ∀ event, stepped.event = some event →
      event.request = id ∧ Explains config binding system.events event ∧
        ({ system with requests }.after id stepped).Supports config binding event)
    (waiting : ∀ accountId entry, stepped.server.states accountId = some entry →
      Waiting config (system.events ++ stepped.event.toList) accountId entry)
    (phase : ({ system with requests }.after id stepped).PhaseOk config binding id stepped.phase) :
    Sound config binding ({ system with requests }.after id stepped) := by
  have known : ∀ other, system.phases other ≠ none →
      ({ system with requests }.after id stepped).phases other ≠ none := by
    intro other opened
    by_cases same : other = id
    · simp [LoginSystem.after, same]
    · simpa [LoginSystem.after, same] using opened
  have later : Later system ({ system with requests }.after id stepped) stepped.event.toList := by
    refine ⟨?_, ?_, rfl⟩
    · intro other request came
      apply (kept other _).trans came
      by_cases same : other = id
      · subst same
        right
        intro absent
        rw [sound.heard other absent] at came
        cases came
      · exact .inl same
    · intro accountId record known
      exact (congrFun credentials accountId).trans known
  constructor
  · intro other absent
    by_cases same : other = id
    · simp [LoginSystem.after, same] at absent
    · apply (kept other (.inl same)).trans
      apply sound.heard
      simpa [LoginSystem.after, same] using absent
  · exact sound.explained.append_toList fun event shown => (explains event shown).2.1
  · intro event member
    rcases List.mem_append.mp member with old | new
    · exact (sound.supported event old).later later
    · exact (explains event (Option.mem_toList.mp new)).2.2
  · intro event member
    rcases List.mem_append.mp member with old | new
    · exact known _ (sound.arrived event old)
    · rw [(explains event (Option.mem_toList.mp new)).1]
      simp [LoginSystem.after]
  · exact waiting
  · intro other found here
    by_cases same : other = id
    · subst same
      have is : stepped.phase = found := by simpa [LoginSystem.after] using here
      exact is ▸ phase
    · have before : system.phases other = some found := by
        simpa [LoginSystem.after, same] using here
      apply (sound.phases other found before).later later
      intro stores
      obtain ⟨event, member, named⟩ := List.mem_filterMap.mp stores
      have mine := (explains event (Option.mem_toList.mp member)).1
      cases event with
      | stored =>
          cases named
          exact same mine
      | consumed => cases named
      | issued => cases named

theorem Waiting.later {events more : List LoginEvent} {accountId : Id} {entry : Entry}
    (waiting : Waiting config events accountId entry)
    (others : entry.storedBy ∉ more.filterMap LoginEvent.consumedState) :
    Waiting config (events ++ more) accountId entry := by
  obtain ⟨⟨storedAt, stored, expires⟩, untaken⟩ := waiting
  refine ⟨⟨storedAt, List.mem_append_left _ stored, expires⟩, ?_⟩
  rw [List.filterMap_append, List.mem_append, not_or]
  exact ⟨untaken, others⟩

theorem Sound.stored_of_consumed (sound : Sound config binding system) {storedBy : RequestId}
    (consumed : storedBy ∈ system.events.filterMap LoginEvent.consumedState) :
    storedBy ∈ system.events.filterMap LoginEvent.storer := by
  obtain ⟨event, member, named⟩ := List.mem_filterMap.mp consumed
  obtain ⟨before, after, split⟩ := List.append_of_mem member
  have explains := sound.explained before event after split
  cases event with
  | stored => cases named
  | issued => cases named
  | consumed request by' takenAt =>
      cases named
      obtain ⟨-, accountId, pending, storedAt, stored, -⟩ := explains
      rw [split]
      exact List.mem_filterMap.mpr ⟨_, List.mem_append_left _ stored, rfl⟩

variable {server : LoginServer}

theorem Sound.store (sound : Sound config binding system) {phase : LoginPhase}
    (open' : system.phases id = some phase) {login : Login} (carries : phase.login = some login)
    (states : server.states = system.server.states)
    (credentials : server.credentials = system.server.credentials)
    (pending : PendingLogin) (now storedAt : Nat) (answer : LoginAnswer)
    (genuine : ∀ stateBytes, pending = .real stateBytes →
      system.Genuine config binding id login.accountId stateBytes) :
    Sound config binding (system.after id
      ⟨{ server with
          states := server.states.set login.accountId pending id now storedAt config.loginStateTtl },
        .answered answer, some (.stored id login.accountId pending storedAt)⟩) := by
  have unstored := (sound.phases id phase open').unstored login carries
  apply sound.after fun _ _ => rfl
  · exact credentials
  · rintro event ⟨⟩
    refine ⟨rfl, unstored, ?_⟩
    cases pending with
    | fake => trivial
    | real stateBytes =>
        obtain ⟨ke1, record, random, ke2, sent, known, started⟩ := genuine stateBytes rfl
        exact ⟨ke1, record, random, ke2, sent, (congrFun credentials _).trans known, started⟩
  · intro accountId entry found
    by_cases same : accountId = login.accountId
    · subst same
      cases (LoginStates.set_self pending id storedAt config.loginStateTtl).symm.trans found
      refine ⟨⟨storedAt, ?_, rfl⟩, ?_⟩
      · simp
      · -- Nothing was stored under this request yet, so nothing of it was taken.
        intro taken
        apply unstored
        apply sound.stored_of_consumed
        simpa [LoginSystem.after, LoginEvent.consumedState] using taken
    · have before := states ▸ LoginStates.set_of_ne same found
      exact (sound.waiting accountId entry before).later (by simp [LoginEvent.consumedState])
  · exact phaseOk_closed rfl

theorem Sound.take (sound : Sound config binding system) {next : LoginPhase}
    (states : server.states = system.server.states)
    (credentials : server.credentials = system.server.credentials)
    {accountId : Id} {now : Nat} {entry : Entry}
    (found : server.states.pendingAt accountId now = some entry)
    (ok : ∀ taken : LoginSystem,
      taken = system.after id ⟨{ server with states := server.states.afterTake accountId now }, next,
          some (.consumed id entry.storedBy now)⟩ →
        (∀ stateBytes, entry.pending = .real stateBytes →
          Taken config taken.events id accountId stateBytes entry.storedBy) →
        taken.PhaseOk config binding id next) :
    Sound config binding (system.after id
      ⟨{ server with states := server.states.afterTake accountId now }, next,
        some (.consumed id entry.storedBy now)⟩) := by
  rw [LoginStates.pendingAt, LoginStates.evictExpired_eq_some, states] at found
  obtain ⟨held, inTime⟩ := found
  obtain ⟨⟨storedAt, stored, expires⟩, untaken⟩ := sound.waiting accountId entry held
  rw [expires] at inTime
  apply sound.after fun _ _ => rfl
  · exact credentials
  · rintro event ⟨⟩
    exact ⟨rfl, ⟨untaken, accountId, entry.pending, storedAt, stored, inTime⟩, trivial⟩
  · intro other kept here
    obtain ⟨apart, before⟩ := LoginStates.afterTake_eq_some here
    have waits := sound.waiting other kept (states ▸ before)
    apply waits.later
    -- Another account's entry has another storer.
    intro taken
    obtain ⟨otherAt, otherStored, -⟩ := waits.stored
    have named : entry.storedBy = kept.storedBy := by
      simpa [LoginEvent.consumedState, eq_comm] using taken
    exact apart (sound.stored_unique (named ▸ otherStored) stored)
  · apply ok _ rfl
    intro stateBytes real
    refine ⟨storedAt, now, ?_, ?_, inTime⟩
    · exact List.mem_append_left _ (real ▸ stored)
    · simp [LoginSystem.after]

theorem phaseOk_finishLogin (system : LoginSystem) (login : Login) (stateBytes : Bytes) (storedBy : RequestId)
    (sent : system.Sent config id login)
    (unstored : id ∉ system.events.filterMap LoginEvent.storer)
    (taken : Taken config system.events id login.accountId stateBytes storedBy) :
    system.PhaseOk config binding id (finishLogin binding login stateBytes storedBy) := by
  rw [finishLogin]
  split
  next accepted =>
    refine ⟨?_, fun _ _ => unstored, ?_, ?_, ?_⟩
    · rintro _ ⟨⟩
      exact sent
    · rintro _ _ ⟨⟩
    · rintro _ _ _ ⟨⟩
    · rintro _ _ ⟨⟩
      exact ⟨stateBytes, taken, accepted⟩
  · exact phaseOk_closed rfl

theorem Sound.performed (sound : Sound config binding system) {phase : LoginPhase}
    {stepped : LoginStep} (open' : system.phases id = some phase)
    (states : server.states = system.server.states)
    (credentials : server.credentials = system.server.credentials)
    (performed : Performed config binding id server phase stepped) :
    Sound config binding (system.after id stepped) := by
  have ok := sound.phases id phase open'
  cases performed with
  | quiet phase next after sameStates sameCredentials follows =>
      apply sound.after (fun _ _ => rfl) (sameCredentials.trans credentials)
      · rintro event ⟨⟩
      · intro accountId entry found
        have before := (sameStates.trans states) ▸ found
        exact (sound.waiting accountId entry before).later (by simp)
      · constructor
        · exact fun login read => ok.sent login (follows.login login read)
        · intro login read
          simpa [LoginSystem.after] using ok.unstored login (follows.login login read)
        · intro login record started
          exact (congrFun sameCredentials _).trans (follows.record login record started)
        · rintro login stateBytes storedBy rfl
          cases follows.early
        · rintro login storedBy rfl
          cases follows.early
  | storedFake login now storedAt message =>
      exact sound.store open' rfl states credentials .fake now storedAt _ (by rintro _ ⟨⟩)
  | storedReal login record stateBytes message random now storedAt started =>
      apply sound.store open' rfl states credentials (.real stateBytes) now storedAt _
      rintro _ ⟨⟩
      exact ⟨login.message, record, random, message, ok.sent login rfl,
        ok.record login record rfl, started⟩
  | tookNothing login now =>
      apply sound.after (fun _ _ => rfl) credentials
      · rintro event ⟨⟩
      · intro accountId entry found
        have before := (LoginStates.afterTake_eq_some found).2
        exact (sound.waiting accountId entry (states ▸ before)).later (by simp)
      · exact phaseOk_closed rfl
  | tookFake login now entry found =>
      exact sound.take states credentials found fun _ _ _ => phaseOk_closed rfl
  | tookReal login now entry stateBytes next found real continues =>
      apply sound.take states credentials found
      rintro after rfl taken
      have sent := ok.sent login rfl
      have unstored := ok.unstored login rfl
      rcases continues with rfl | rfl
      · refine ⟨?_, ?_, ?_, ?_, ?_⟩
        · rintro _ ⟨⟩
          exact sent
        · rintro _ -
          simpa [LoginSystem.after, LoginEvent.storer] using unstored
        · rintro _ _ ⟨⟩
        · rintro _ _ _ ⟨⟩
          exact taken stateBytes real
        · rintro _ _ ⟨⟩
      · apply phaseOk_finishLogin
        · exact sent
        · simpa [LoginSystem.after, LoginEvent.storer] using unstored
        · exact taken stateBytes real
  | finished login stateBytes storedBy =>
      apply sound.after (fun _ _ => rfl) credentials
      · rintro event ⟨⟩
      · intro accountId entry found
        exact (sound.waiting accountId entry (states ▸ found)).later (by simp)
      · apply phaseOk_finishLogin
        · exact ok.sent login rfl
        · simpa [LoginSystem.after] using ok.unstored login rfl
        · exact (ok.finishing login stateBytes storedBy rfl).grows
  | issued login storedBy answer =>
      obtain ⟨stateBytes, ⟨storedAt, takenAt, stored, consumed, inTime⟩, accepted⟩ :=
        ok.issuing login storedBy rfl
      apply sound.after (fun _ _ => rfl) credentials
      · rintro event ⟨⟩
        exact ⟨rfl, ⟨stateBytes, storedAt, takenAt, stored, consumed, inTime, accepted⟩,
          ok.sent login rfl⟩
      · intro accountId entry found
        exact (sound.waiting accountId entry (states ▸ found)).later
          (by simp [LoginEvent.consumedState])
      · exact phaseOk_closed rfl

theorem Sound.arrive (sound : Sound config binding system) (fresh : system.phases id = none)
    (request : LoginRequest) (now : Nat) :
    Sound config binding ({ system with
      requests := Function.update system.requests id (some request) }.after id
        (Auth.arrive config request now system.server)) := by
  obtain ⟨quiet, credentials, states, goes⟩ := arrive_cases config request now system.server
  generalize Auth.arrive config request now system.server = stepped at *
  have unstored : id ∉ system.events.filterMap LoginEvent.storer := by
    intro stores
    obtain ⟨event, member, named⟩ := List.mem_filterMap.mp stores
    cases event with
    | stored =>
        cases named
        exact sound.arrived _ member fresh
    | consumed => cases named
    | issued => cases named
  apply sound.after
  · rintro other (apart | opened)
    · exact Function.update_of_ne apart _ _
    · apply Function.update_of_ne
      rintro rfl
      exact opened fresh
  · exact credentials
  · intro event shown
    rw [quiet] at shown
    cases shown
  · intro accountId entry found
    exact (sound.waiting accountId entry (states accountId entry found)).later (by simp [quiet])
  · rcases goes with ⟨answer, goes⟩ | ⟨login, hasPending, read, goes⟩
    · exact phaseOk_closed (by rw [goes, LoginPhase.login])
    · rw [goes]
      constructor
      · rintro _ ⟨⟩
        exact ⟨request, Function.update_self .., read⟩
      · rintro _ -
        simpa [LoginSystem.after, quiet] using unstored
      · rintro _ _ ⟨⟩
      · rintro _ _ _ ⟨⟩
      · rintro _ _ ⟨⟩

theorem Sound.outside {next : LoginSystem} (sound : Sound config binding system)
    (requests : next.requests = system.requests) (events : next.events = system.events)
    (credentials : ∀ accountId record, system.server.credentials accountId = some record →
      next.server.credentials accountId = some record)
    (states : ∀ accountId entry, next.server.states accountId = some entry →
      system.server.states accountId = some entry)
    (phases : next.phases = system.phases ∨
      next.phases = fun id => (system.phases id).map fun _ => .dropped) :
    Sound config binding next := by
  have later : Later system next [] := by
    refine ⟨?_, credentials, by rw [events, List.append_nil]⟩
    intro id request came
    rw [requests, came]
  have known : ∀ id, next.phases id = none ↔ system.phases id = none := by
    intro id
    rcases phases with same | dropped
    · rw [same]
    · simp [dropped]
  constructor
  · intro id absent
    rw [requests]
    exact sound.heard id ((known id).mp absent)
  · exact events ▸ sound.explained
  · intro event member
    exact (sound.supported event (events ▸ member)).later later
  · intro event member absent
    exact sound.arrived event (events ▸ member) ((known _).mp absent)
  · intro accountId entry found
    exact events ▸ sound.waiting accountId entry (states accountId entry found)
  · intro id phase open'
    rcases phases with same | dropped
    · rw [same] at open'
      exact (sound.phases id phase open').later later (by simp)
    · rw [dropped, Option.map_eq_some_iff] at open'
      obtain ⟨_, _, rfl⟩ := open'
      exact phaseOk_closed rfl

theorem sound_step (action : LoginAction) (next : LoginSystem)
    (sound : Sound config binding system) (stepped : step config binding system action = some next) :
    Sound config binding next := by
  cases action with
  | arrive id request now =>
      simp only [step] at stepped
      cases fresh : system.phases id with
      | some => simp [fresh] at stepped
      | none =>
          rw [fresh] at stepped
          cases stepped
          exact sound.arrive fresh request now
  | advance id surroundings =>
      simp only [step, Option.map_eq_some_iff] at stepped
      obtain ⟨phase, open', rfl⟩ := stepped
      exact sound.performed open' (sweepAll_states _) (sweepAll_credentials _) (perform_cases phase)
  | register accountId record =>
      cases stepped
      refine sound.outside rfl rfl ?_ (fun _ _ found => found) (.inl rfl)
      intro other known found
      by_cases same : other = accountId
      · subst same
        simp [LoginServer.saveCredentialRecordIfAbsent, found]
      · simpa [LoginServer.saveCredentialRecordIfAbsent, same] using found
  | restart =>
      cases stepped
      refine sound.outside rfl rfl (fun _ _ found => found) ?_ (.inr rfl)
      rintro _ _ ⟨⟩

theorem sound_run {actions : List LoginAction}
    (ran : run (step config binding) initial actions = some system) :
    Sound config binding system :=
  run_preserves (fun _ action next sound stepped => sound_step action next sound stepped)
    sound_initial ran

/-- What was there when a session was issued: an earlier first leg of the account had stored a
real state, this request had taken it in time, and the finish accepted its KE3 against it. -/
structure LoggedIn (config : LoginConfig) (binding : OpaqueBinding) (system : LoginSystem)
    (before : List LoginEvent) (second : RequestId) (accountId : Id) (first : RequestId)
    (ke3 stateBytes : Bytes) (storedAt takenAt : Nat) : Prop where
  stored : .stored first accountId (.real stateBytes) storedAt ∈ before
  genuine : system.Genuine config binding first accountId stateBytes
  taken : .consumed second first takenAt ∈ before
  inTime : takenAt < storedAt + config.loginStateTtl
  sent : system.Sent config second ⟨accountId, ke3⟩
  accepted : binding.loginFinish stateBytes ke3 opaqueContext = true

end LoginSystem

open LoginSystem

theorem login_soundness (config : LoginConfig) (binding : OpaqueBinding)
    (actions : List LoginAction) (system : LoginSystem)
    (ran : run (LoginSystem.step config binding) LoginSystem.initial actions = some system) :
    (∀ before after second accountId first ke3,
      system.events = before ++ .issued second accountId first ke3 :: after →
        ∃ stateBytes storedAt takenAt,
          LoggedIn config binding system before second accountId first ke3 stateBytes storedAt
            takenAt) ∧
      (∀ before after second first takenAt,
        system.events = before ++ .consumed second first takenAt :: after →
          ∃ accountId pending storedAt, .stored first accountId pending storedAt ∈ before ∧
            takenAt < storedAt + config.loginStateTtl) ∧
      (system.events.filterMap LoginEvent.storer).Nodup ∧
      (system.events.filterMap LoginEvent.consumedState).Nodup := by
  have sound := sound_run ran
  refine ⟨?_, ?_, sound.explained.nodup storer_fresh, sound.explained.nodup consumedState_fresh⟩
  · intro before after second accountId first ke3 split
    obtain ⟨stateBytes, storedAt, takenAt, stored, taken, inTime, accepted⟩ :=
      sound.explained before _ after split
    have whole : ∀ event ∈ before, event ∈ system.events := by
      intro event member
      rw [split]
      exact List.mem_append_left _ member
    have issued : .issued second accountId first ke3 ∈ system.events := by simp [split]
    exact ⟨stateBytes, storedAt, takenAt, stored, sound.supported _ (whole _ stored), taken, inTime,
      sound.supported _ issued, accepted⟩
  · intro before after second first takenAt split
    exact (sound.explained before _ after split).2

section Sample

def loginActions : List LoginAction :=
  [.register "alice" [7], .arrive 0 (loginRequest (List.replicate ke1Length 0)) 0] ++
    List.replicate 5 (.advance 0 (calm 0)) ++
    [.arrive 1 (loginRequest [7]) 59999] ++ List.replicate 5 (.advance 1 (calm 59999))

theorem login_soundness_node :
    ∃ system stateBytes storedAt takenAt,
      run (LoginSystem.step (sampleConfig .node) sampleBinding) LoginSystem.initial loginActions =
        some system ∧
      system.events = [.stored 0 "alice" (.real [7]) 0, .consumed 1 0 59999] ++
        .issued 1 "alice" 0 [7] :: [] ∧
      LoggedIn (sampleConfig .node) sampleBinding system
        [.stored 0 "alice" (.real [7]) 0, .consumed 1 0 59999] 1 "alice" 0 [7] stateBytes storedAt
        takenAt := by
  have ran : run (LoginSystem.step (sampleConfig .node) sampleBinding) LoginSystem.initial
      loginActions = some _ := run_reached (by decide +kernel)
  have events : (reached (LoginSystem.step (sampleConfig .node) sampleBinding) LoginSystem.initial
      loginActions).events = [.stored 0 "alice" (.real [7]) 0, .consumed 1 0 59999] ++
        .issued 1 "alice" 0 [7] :: [] := by
    decide +kernel
  obtain ⟨stateBytes, storedAt, takenAt, loggedIn⟩ :=
    (login_soundness _ _ _ _ ran).1 _ _ _ _ _ _ events
  exact ⟨_, stateBytes, storedAt, takenAt, ran, events, loggedIn⟩

end Sample

end ZenPass.Auth
