import ZenPass.Auth.Login

set_option autoImplicit false

-- The same requests, one after the other, with an account that has a credential record and without
-- it. The two servers stay alike, a decoy entry where the other one has a real state.

namespace ZenPass.Auth

open Wire Transition
open Sync (Id Backend)

inductive Shape where
  | message (length : Nat)
  | session
  | error (error message : String)
  | framework
deriving DecidableEq, Repr

structure Response where
  status : Nat
  shape : Shape
deriving DecidableEq, Repr

def LoginAnswer.response : LoginAnswer → Response
  | .message bytes => ⟨200, .message bytes.length⟩
  | .session _ _ => ⟨200, .session⟩
  | .unauthorized => ⟨401, .error "authentication_failed" "Invalid credentials."⟩
  | .refused status => ⟨status, .framework⟩
  | .failed => ⟨500, .framework⟩

def LoginPhase.response : LoginPhase → Option Response
  | .answered answer => some answer.response
  | _ => none

structure Attempt where
  id : RequestId
  request : LoginRequest
  now : Nat
  ticks : Fin 5 → Surroundings

section Requests

variable (config : LoginConfig) (binding : OpaqueBinding)

abbrev Handler := LoginServer × LoginPhase

def tick (id : RequestId) (handler : Handler) (surroundings : Surroundings) : Handler :=
  let stepped := advance config binding id surroundings handler.1 handler.2
  (stepped.server, stepped.phase)

def enter (server : LoginServer) (attempt : Attempt) : Handler :=
  let arrived := arrive config attempt.request attempt.now server
  (arrived.server, arrived.phase)

def serve (server : LoginServer) (attempt : Attempt) : Handler :=
  (List.ofFn attempt.ticks).foldl (tick config binding attempt.id) (enter config server attempt)

def responses (server : LoginServer) : List Attempt → List (Option Response)
  | [] => []
  | attempt :: rest =>
      let served := serve config binding server attempt
      served.2.response :: responses served.1 rest

end Requests

def LoginServer.withCredential (server : LoginServer) (accountId : Id) (createdAt : Nat)
    (record : Bytes) : LoginServer :=
  { server with
    accounts := Function.update server.accounts accountId (some createdAt)
    credentials := Function.update server.credentials accountId (some record) }

def LoginServer.withoutCredential (server : LoginServer) (accountId : Id) : LoginServer :=
  { server with credentials := Function.update server.credentials accountId none }

/-- What login relies on: the start depends on the bytes of KE1 only, KE2 has the suite's length,
and the finish of the account accepts only what comes from its password. -/
structure BindingLaws (binding : OpaqueBinding) (accepts : Bytes → Bool)
    (fromPassword : Bytes → Prop) (accountId : Id) (record : Bytes) : Prop where
  start_isSome : ∀ random record accountId ke1,
    (binding.loginStart random record accountId ke1 opaqueContext).isSome = accepts ke1
  ke2_length : ∀ random record accountId ke1 stateBytes ke2,
    binding.loginStart random record accountId ke1 opaqueContext = some (stateBytes, ke2) →
      ke2.length = ke2Length
  finish_rejects : ∀ random ke1 stateBytes ke2 ke3,
    binding.loginStart random record accountId ke1 opaqueContext = some (stateBytes, ke2) →
      ¬ fromPassword ke3 → binding.loginFinish stateBytes ke3 opaqueContext = false

/-- A step tells nothing: the account's row is there when its attempts are counted, and the KE1 of
a first leg that looks the credential up is one that the start accepts. -/
def UnrevealingPhase (accepts : Bytes → Bool) (accountId : Id) (swept : LoginServer)
    (failing : Bool) : LoginPhase → Prop
  | .checkAndIncrement login _ =>
      login.accountId = accountId → failing = false → swept.accounts accountId ≠ none
  | .getCredentialRecord login =>
      login.accountId = accountId → failing = false → accepts login.message = true
  | .ensureAccount _ _ | .ready _ _ | .loginStart _ _ | .loginFinish _ _ _ => True
  | .issueSession _ _ | .answered _ | .dropped => True

instance (accepts : Bytes → Bool) (accountId : Id) (swept : LoginServer) (failing : Bool) :
    (phase : LoginPhase) → Decidable (UnrevealingPhase accepts accountId swept failing phase)
  | .checkAndIncrement login _ => inferInstanceAs (Decidable
      (login.accountId = accountId → failing = false → swept.accounts accountId ≠ none))
  | .getCredentialRecord login => inferInstanceAs (Decidable
      (login.accountId = accountId → failing = false → accepts login.message = true))
  | .ensureAccount _ _ | .ready _ _ | .loginStart _ _ | .loginFinish _ _ _ => isTrue trivial
  | .issueSession _ _ | .answered _ | .dropped => isTrue trivial

def Unrevealing (accepts : Bytes → Bool) (accountId : Id) (handler : Handler)
    (surroundings : Surroundings) : Prop :=
  UnrevealingPhase accepts accountId (handler.1.sweepAll surroundings.sweeps) surroundings.failing
    handler.2

instance (accepts : Bytes → Bool) (accountId : Id) (handler : Handler)
    (surroundings : Surroundings) : Decidable (Unrevealing accepts accountId handler surroundings) :=
  inferInstanceAs (Decidable (UnrevealingPhase ..))

def Attempt.Unrevealing (config : LoginConfig) (binding : OpaqueBinding) (accepts : Bytes → Bool)
    (accountId : Id) (server : LoginServer) (attempt : Attempt) : Prop :=
  Every (fun handler surroundings => some (tick config binding attempt.id handler surroundings))
    (Auth.Unrevealing accepts accountId) (enter config server attempt) (List.ofFn attempt.ticks)

instance (config : LoginConfig) (binding : OpaqueBinding) (accepts : Bytes → Bool) (accountId : Id)
    (server : LoginServer) (attempt : Attempt) :
    Decidable (attempt.Unrevealing config binding accepts accountId server) :=
  inferInstanceAs (Decidable (Every ..))

variable {config : LoginConfig} {binding : OpaqueBinding} {accepts : Bytes → Bool}
  {fromPassword : Bytes → Prop} {accountId : Id} {record : Bytes}

/-- A decoy has the place and the expiry of a real state. -/
inductive Shadow (binding : OpaqueBinding) (accountId : Id) (record : Bytes) :
    Option Entry → Option Entry → Prop where
  | nothing : Shadow binding accountId record none none
  | decoy (stateBytes : Bytes) (expiresAt : Nat) (storedBy : RequestId)
      (started : ∃ random ke1 ke2,
        binding.loginStart random record accountId ke1 opaqueContext = some (stateBytes, ke2)) :
      Shadow binding accountId record (some ⟨.real stateBytes, expiresAt, storedBy⟩)
        (some ⟨.fake, expiresAt, storedBy⟩)

structure AlikeStates (binding : OpaqueBinding) (accountId : Id) (record : Bytes)
    (present absent : LoginStates) : Prop where
  others : ∀ other, other ≠ accountId → present other = absent other
  shadow : Shadow binding accountId record (present accountId) (absent accountId)

structure Alike (binding : OpaqueBinding) (accountId : Id) (record : Bytes)
    (present absent : LoginServer) : Prop where
  states : AlikeStates binding accountId record present.states absent.states
  buckets : present.buckets = absent.buckets
  limits : present.limits = absent.limits
  accounts : ∀ other, other ≠ accountId → present.accounts other = absent.accounts other
  row : present.accounts accountId ≠ none
  credentials : ∀ other, other ≠ accountId → present.credentials other = absent.credentials other
  registered : present.credentials accountId = some record
  unknown : absent.credentials accountId = none

variable {present absent : LoginServer}

theorem Shadow.filter {first second : Option Entry}
    (shadow : Shadow binding accountId record first second) (now : Nat) :
    Shadow binding accountId record
      (first.filter fun entry => decide (now < entry.expiresAt))
      (second.filter fun entry => decide (now < entry.expiresAt)) := by
  cases shadow with
  | nothing => exact .nothing
  | decoy stateBytes expiresAt storedBy started =>
      by_cases inTime : now < expiresAt
      · simpa [Option.filter, inTime] using Shadow.decoy stateBytes expiresAt storedBy started
      · simpa [Option.filter, inTime] using Shadow.nothing

theorem Shadow.isSome {first second : Option Entry}
    (shadow : Shadow binding accountId record first second) : first.isSome = second.isSome := by
  cases shadow <;> rfl

namespace AlikeStates

variable {first second : LoginStates} (alike : AlikeStates binding accountId record first second)

include alike

theorem evictExpired (now : Nat) :
    AlikeStates binding accountId record (first.evictExpired now) (second.evictExpired now) where
  others other apart := by simp only [LoginStates.evictExpired, alike.others other apart]
  shadow := alike.shadow.filter now

theorem hasPending (asked : Id) (now : Nat) :
    first.hasPending asked now = second.hasPending asked now := by
  have evicted := alike.evictExpired now
  by_cases same : asked = accountId
  · subst same
    exact evicted.shadow.isSome
  · rw [LoginStates.hasPending, LoginStates.hasPending, evicted.others asked same]

theorem afterTake (taken : Id) (now : Nat) :
    AlikeStates binding accountId record (first.afterTake taken now)
      (second.afterTake taken now) := by
  have evicted := alike.evictExpired now
  constructor
  · intro other apart
    by_cases same : other = taken
    · simp [LoginStates.afterTake, same]
    · simpa [LoginStates.afterTake, same] using evicted.others other apart
  · by_cases same : accountId = taken
    · simpa [LoginStates.afterTake, same] using Shadow.nothing
    · simpa [LoginStates.afterTake, same] using evicted.shadow

theorem set_other {other : Id} (apart : other ≠ accountId) (pending : PendingLogin)
    (storedBy : RequestId) (now storedAt ttl : Nat) :
    AlikeStates binding accountId record (first.set other pending storedBy now storedAt ttl)
      (second.set other pending storedBy now storedAt ttl) := by
  have evicted := alike.evictExpired now
  constructor
  · intro asked distinct
    by_cases same : asked = other
    · simp [LoginStates.set, same]
    · simpa [LoginStates.set, same] using evicted.others asked distinct
  · simpa [LoginStates.set, apart.symm] using evicted.shadow

theorem set_decoy (stateBytes : Bytes) (storedBy : RequestId) (now storedAt ttl : Nat)
    (started : ∃ random ke1 ke2,
      binding.loginStart random record accountId ke1 opaqueContext = some (stateBytes, ke2)) :
    AlikeStates binding accountId record
      (first.set accountId (.real stateBytes) storedBy now storedAt ttl)
      (second.set accountId .fake storedBy now storedAt ttl) := by
  have evicted := alike.evictExpired now
  constructor
  · intro other apart
    simpa [LoginStates.set, apart] using evicted.others other apart
  · rw [LoginStates.set_self, LoginStates.set_self]
    exact .decoy stateBytes _ storedBy started

end AlikeStates

namespace Alike

variable (alike : Alike binding accountId record present absent)

include alike

theorem sweep (sweep : Sweep) :
    Alike binding accountId record (present.sweep sweep) (absent.sweep sweep) := by
  cases sweep with
  | rateLimits cutoff =>
      refine { alike with limits := ?_ }
      simp only [LoginServer.sweep, alike.limits]
  | accounts cutoff referenced =>
      refine { alike with accounts := ?_, row := ?_ }
      · intro other apart
        simp only [LoginServer.sweep, LoginServer.swept, alike.accounts other apart,
          alike.credentials other apart, alike.limits]
      · -- A row that a credential refers to stays.
        obtain ⟨createdAt, row⟩ := Option.ne_none_iff_exists'.mp alike.row
        simp [LoginServer.sweep, LoginServer.swept, row, alike.registered]

theorem sweepAll (sweeps : List Sweep) :
    Alike binding accountId record (present.sweepAll sweeps) (absent.sweepAll sweeps) := by
  induction sweeps generalizing present absent with
  | nil => exact alike
  | cons first rest ih => exact ih (alike.sweep first)

theorem ensureAccount (asked : Id) (now : Nat) :
    Alike binding accountId record (present.ensureAccount asked now)
      (absent.ensureAccount asked now) := by
  refine { alike with accounts := ?_, row := ?_ }
  · intro other apart
    by_cases same : other = asked
    · subst same
      simp [LoginServer.ensureAccount, alike.accounts other apart]
    · simpa [LoginServer.ensureAccount, same] using alike.accounts other apart
  · by_cases same : accountId = asked
    · simp [LoginServer.ensureAccount, same]
    · simpa [LoginServer.ensureAccount, same] using alike.row

theorem increment (asked : Id) (now window : Nat) :
    Alike binding accountId record (present.increment asked now window)
      (absent.increment asked now window) := by
  refine { alike with limits := ?_ }
  simp only [LoginServer.increment, alike.limits]

theorem withinLimit (asked : Id) (now window max : Nat) :
    present.withinLimit asked now window max = absent.withinLimit asked now window max := by
  simp only [LoginServer.withinLimit, alike.limits]

theorem withStates {first second : LoginStates}
    (states : AlikeStates binding accountId record first second) :
    Alike binding accountId record { present with states := first }
      { absent with states := second } :=
  { alike with states }

theorem arrive (config : LoginConfig) (request : LoginRequest) (now : Nat) :
    (Auth.arrive config request now present).phase =
        (Auth.arrive config request now absent).phase ∧
      Alike binding accountId record (Auth.arrive config request now present).server
        (Auth.arrive config request now absent).server := by
  cases read : readLogin config.backend request.body with
  | error answer =>
      simp only [Auth.arrive, read]
      exact ⟨trivial, alike⟩
  | ok login =>
      have evicted := alike.withStates (alike.states.evictExpired now)
      simp only [Auth.arrive, read, alike.states.hasPending login.accountId now, alike.buckets]
      split
      · exact ⟨rfl, { evicted with buckets := rfl }⟩
      · split
        · exact ⟨rfl, { evicted with buckets := rfl }⟩
        · exact ⟨rfl, { evicted with buckets := rfl }⟩

end Alike

def LoginPhase.common : LoginPhase → Bool
  | .ensureAccount _ _ | .checkAndIncrement _ _ | .ready _ _ | .getCredentialRecord _ => true
  | _ => false

inductive Paired (binding : OpaqueBinding) (fromPassword : Bytes → Prop) (accountId : Id)
    (record : Bytes) : LoginPhase → LoginPhase → Prop where
  | same (phase : LoginPhase)
      (own : ∀ login, phase.login = some login → login.accountId = accountId →
        phase.common = true ∧ ¬ fromPassword login.message) :
      Paired binding fromPassword accountId record phase phase
  | starting (login : Login) (own : login.accountId = accountId)
      (startable : ∀ random, (binding.loginStart random record accountId login.message
        opaqueContext).isSome = true) :
      Paired binding fromPassword accountId record (.loginStart login (some record))
        (.loginStart login none)
  | finishing (login : Login) (stateBytes : Bytes) (storedBy : RequestId)
      (rejected : binding.loginFinish stateBytes login.message opaqueContext = false) :
      Paired binding fromPassword accountId record (.loginFinish login stateBytes storedBy)
        (.answered .unauthorized)
  | answered (first second : LoginAnswer) (alike : first.response = second.response) :
      Paired binding fromPassword accountId record (.answered first) (.answered second)

theorem Paired.response {first second : LoginPhase}
    (paired : Paired binding fromPassword accountId record first second)
    (answered : first.response.isSome = true) : first.response = second.response := by
  cases paired with
  | same => rfl
  | starting => cases answered
  | finishing => cases answered
  | answered first second alike => exact congrArg some alike

/-- What the two handlers are after the same step. -/
def PairedSteps (binding : OpaqueBinding) (fromPassword : Bytes → Prop) (accountId : Id)
    (record : Bytes) (first second : LoginStep) : Prop :=
  Alike binding accountId record first.server second.server ∧
    Paired binding fromPassword accountId record first.phase second.phase

theorem pairedSteps_answered (alike : Alike binding accountId record present absent)
    (answer : LoginAnswer) :
    PairedSteps binding fromPassword accountId record ⟨present, .answered answer, none⟩
      ⟨absent, .answered answer, none⟩ :=
  ⟨alike, .answered _ _ rfl⟩

section Perform

variable {id : RequestId} {surroundings : Surroundings}
  (laws : BindingLaws binding accepts fromPassword accountId record)
  (alike : Alike binding accountId record present absent)

include alike

theorem paired_take_other {login : Login} (other : login.accountId ≠ accountId) (now : Nat) :
    PairedSteps binding fromPassword accountId record
      (takePending config binding id login now present)
      (takePending config binding id login now absent) := by
  have evicted := alike.states.evictExpired now
  have left := alike.withStates (alike.states.afterTake login.accountId now)
  have found : present.states.pendingAt login.accountId now =
      absent.states.pendingAt login.accountId now := evicted.others _ other
  simp only [takePending, found]
  cases absent.states.pendingAt login.accountId now with
  | none => exact ⟨left, .answered _ _ rfl⟩
  | some entry =>
      obtain ⟨pending, expiresAt, storedBy⟩ := entry
      cases pending with
      | fake => exact ⟨left, .answered _ _ rfl⟩
      | real stateBytes =>
          cases config.backend with
          | rust =>
              refine ⟨left, .same _ ?_⟩
              rintro _ ⟨⟩ own
              exact absurd own other
          | node =>
              simp only [finishLogin]
              split
              · refine ⟨left, .same _ ?_⟩
                rintro _ ⟨⟩ own
                exact absurd own other
              · exact ⟨left, .answered _ _ rfl⟩

include laws

theorem paired_take_own {login : Login} (own : login.accountId = accountId)
    (ignorant : ¬ fromPassword login.message) (now : Nat) :
    PairedSteps binding fromPassword accountId record
      (takePending config binding id login now present)
      (takePending config binding id login now absent) := by
  have left := alike.withStates (alike.states.afterTake login.accountId now)
  have shadow := (alike.states.evictExpired now).shadow
  rw [← own] at shadow
  simp only [takePending, LoginStates.pendingAt]
  generalize present.states.evictExpired now login.accountId = first at shadow
  generalize absent.states.evictExpired now login.accountId = second at shadow
  cases shadow with
  | nothing => exact ⟨left, .answered _ _ rfl⟩
  | decoy stateBytes expiresAt storedBy started =>
      obtain ⟨random, ke1, ke2, started⟩ := started
      rw [own] at started
      have rejected := laws.finish_rejects random ke1 stateBytes ke2 login.message started ignorant
      cases config.backend with
      | rust => exact ⟨left, .finishing login stateBytes storedBy rejected⟩
      | node =>
          refine ⟨left, ?_⟩
          simp only [finishLogin, rejected, Bool.false_eq_true, if_false]
          exact .answered _ _ rfl

theorem paired_perform {first second : LoginPhase}
    (paired : Paired binding fromPassword accountId record first second)
    (counted : ∀ login hasPending, second = .checkAndIncrement login hasPending →
      login.accountId = accountId → surroundings.failing = false → absent.accounts accountId ≠ none)
    (startable : ∀ login, second = .getCredentialRecord login → login.accountId = accountId →
      surroundings.failing = false → accepts login.message = true) :
    PairedSteps binding fromPassword accountId record
      (perform config binding id surroundings present first)
      (perform config binding id surroundings absent second) := by
  cases paired with
  | same _ own =>
      cases first with
      | ensureAccount login hasPending =>
          simp only [perform]
          split
          · exact pairedSteps_answered alike _
          · exact ⟨alike.ensureAccount login.accountId surroundings.now, .same _ own⟩
      | checkAndIncrement login hasPending =>
          simp only [perform]
          cases failing : surroundings.failing with
          | true =>
              simp only [Bool.true_or, if_true]
              exact pairedSteps_answered alike _
          | false =>
              have rows : (present.accounts login.accountId).isNone =
                  (absent.accounts login.accountId).isNone := by
                by_cases mine : login.accountId = accountId
                · have there := counted login hasPending rfl mine failing
                  obtain ⟨createdAt, row⟩ := Option.ne_none_iff_exists'.mp alike.row
                  obtain ⟨ensuredAt, ensured⟩ := Option.ne_none_iff_exists'.mp there
                  rw [mine, row, ensured, Option.isNone_some, Option.isNone_some]
                · rw [alike.accounts _ mine]
              simp only [rows, Bool.false_or, alike.withinLimit login.accountId surroundings.now
                config.rateLimitWindow config.rateLimitMax]
              split
              · exact pairedSteps_answered alike _
              · refine ⟨alike.increment login.accountId surroundings.now config.rateLimitWindow, ?_⟩
                split
                · exact .same _ own
                · exact .answered _ _ rfl
      | ready login hasPending =>
          simp only [perform]
          split
          · exact pairedSteps_answered alike _
          · split
            · by_cases mine : login.accountId = accountId
              · exact paired_take_own laws alike mine (own login rfl mine).2 _
              · exact paired_take_other alike mine _
            · exact ⟨alike, .same _ own⟩
      | getCredentialRecord login =>
          simp only [perform]
          cases failing : surroundings.failing with
          | true =>
              simp only [if_true]
              exact pairedSteps_answered alike _
          | false =>
              simp only [Bool.false_eq_true, if_false]
              by_cases mine : login.accountId = accountId
              · refine ⟨alike, ?_⟩
                simp only [mine, alike.registered, alike.unknown]
                apply Paired.starting login mine
                intro random
                rw [laws.start_isSome]
                exact startable login rfl mine failing
              · refine ⟨alike, ?_⟩
                simp only [alike.credentials _ mine]
                apply Paired.same
                rintro _ ⟨⟩ also
                exact absurd also mine
      | loginStart login credentialRecord =>
          have other : login.accountId ≠ accountId := by
            intro mine
            cases (own login rfl mine).1
          cases credentialRecord with
          | none =>
              exact ⟨alike.withStates (alike.states.set_other other _ _ _ _ _), .answered _ _ rfl⟩
          | some found =>
              simp only [perform]
              split
              · exact pairedSteps_answered alike _
              · exact ⟨alike.withStates (alike.states.set_other other _ _ _ _ _), .answered _ _ rfl⟩
      | loginFinish login stateBytes storedBy =>
          refine ⟨alike, ?_⟩
          simp only [perform, finishLogin]
          split
          · apply Paired.same
            rintro _ ⟨⟩ mine
            cases (own login rfl mine).1
          · exact .answered _ _ rfl
      | issueSession login storedBy =>
          simp only [perform]
          split
          · exact pairedSteps_answered alike _
          · exact ⟨alike, .answered _ _ rfl⟩
      | answered answer => exact pairedSteps_answered alike answer
      | dropped => exact ⟨alike, .same _ own⟩
  | starting login own starts =>
      obtain ⟨⟨stateBytes, ke2⟩, started⟩ :=
        Option.isSome_iff_exists.mp (starts surroundings.random)
      have length := laws.ke2_length _ _ _ _ _ _ started
      subst own
      simp only [perform, started]
      refine ⟨alike.withStates (alike.states.set_decoy stateBytes _ _ _ _ ⟨_, _, _, started⟩), ?_⟩
      apply Paired.answered
      simp [LoginAnswer.response, length, randomBytes]
  | finishing login stateBytes storedBy rejected =>
      refine ⟨alike, ?_⟩
      simp only [perform, finishLogin, rejected, Bool.false_eq_true, if_false]
      exact .answered _ _ rfl
  | answered first second same => exact ⟨alike, .answered _ _ same⟩

end Perform

def LoginPhase.left : LoginPhase → Nat
  | .ensureAccount _ _ => 5
  | .checkAndIncrement _ _ => 4
  | .ready _ _ => 3
  | .getCredentialRecord _ | .loginFinish _ _ _ => 2
  | .loginStart _ _ | .issueSession _ _ => 1
  | .answered _ => 0
  | .dropped => 6

theorem finishLogin_left (binding : OpaqueBinding) (login : Login) (stateBytes : Bytes) (storedBy : RequestId) :
    (finishLogin binding login stateBytes storedBy).left ≤ 1 := by
  rw [finishLogin]
  split <;> simp [LoginPhase.left]

theorem takePending_left (id : RequestId) (login : Login) (now : Nat) (server : LoginServer) :
    (takePending config binding id login now server).phase.left ≤ 2 := by
  simp only [takePending]
  cases server.states.pendingAt login.accountId now with
  | none => simp [LoginPhase.left]
  | some entry =>
      obtain ⟨pending, expiresAt, storedBy⟩ := entry
      cases pending with
      | fake => simp [LoginPhase.left]
      | real stateBytes =>
          cases config.backend with
          | rust => simp [LoginPhase.left]
          | node =>
              have := finishLogin_left binding login stateBytes storedBy
              simp only
              omega

theorem perform_left (id : RequestId) (surroundings : Surroundings) (server : LoginServer)
    (phase : LoginPhase) (live : phase.left ≤ 5) :
    (perform config binding id surroundings server phase).phase.left ≤ phase.left - 1 := by
  cases phase with
  | ensureAccount login hasPending =>
      simp only [perform]
      split <;> simp [LoginPhase.left]
  | checkAndIncrement login hasPending =>
      simp only [perform]
      split
      · simp [LoginPhase.left]
      · split <;> simp [LoginPhase.left]
  | ready login hasPending =>
      simp only [perform]
      split
      · simp [LoginPhase.left]
      · split
        · exact takePending_left id login _ server
        · simp [LoginPhase.left]
  | getCredentialRecord login =>
      simp only [perform]
      split <;> simp [LoginPhase.left]
  | loginStart login credentialRecord =>
      cases credentialRecord with
      | none => simp [perform, store, LoginPhase.left]
      | some found =>
          simp only [perform]
          split <;> simp [store, LoginPhase.left]
  | loginFinish login stateBytes storedBy => exact finishLogin_left binding login stateBytes storedBy
  | issueSession login storedBy =>
      simp only [perform]
      split <;> simp [LoginPhase.left]
  | answered answer => simp [perform, LoginPhase.left]
  | dropped => simp [LoginPhase.left] at live

theorem ticks_left (config : LoginConfig) (binding : OpaqueBinding) (id : RequestId) (handler : Handler) (ticks : List Surroundings)
    (live : handler.2.left ≤ 5) :
    (ticks.foldl (tick config binding id) handler).2.left ≤ handler.2.left - ticks.length := by
  induction ticks generalizing handler with
  | nil => simp
  | cons first rest ih =>
      have once : (tick config binding id handler first).2.left ≤ handler.2.left - 1 :=
        perform_left id first _ handler.2 live
      have later := ih (tick config binding id handler first) (by omega)
      simp only [List.foldl_cons, List.length_cons]
      omega

theorem arrive_left (config : LoginConfig) (request : LoginRequest) (now : Nat)
    (server : LoginServer) : (arrive config request now server).phase.left ≤ 5 := by
  obtain ⟨-, -, -, ⟨answer, goes⟩ | ⟨login, hasPending, -, goes⟩⟩ :=
    arrive_cases config request now server
  · simp [goes, LoginPhase.left]
  · simp [goes, LoginPhase.left]

theorem serve_answers (server : LoginServer) (attempt : Attempt) :
    (serve config binding server attempt).2.response.isSome = true := by
  have live := arrive_left config attempt.request attempt.now server
  have ended := ticks_left config binding attempt.id
    (enter config server attempt) (List.ofFn attempt.ticks) live
  rw [List.length_ofFn] at ended
  have none' : (serve config binding server attempt).2.left = 0 := by
    have : (enter config server attempt).2.left ≤ 5 := live
    rw [serve]
    omega
  cases phase : (serve config binding server attempt).2 with
  | answered answer => rfl
  | _ => simp [phase, LoginPhase.left] at none'

section Sequences

variable (laws : BindingLaws binding accepts fromPassword accountId record)

include laws

theorem paired_tick (config : LoginConfig) (id : RequestId) {surroundings : Surroundings} {first second : Handler}
    (alike : Alike binding accountId record first.1 second.1)
    (paired : Paired binding fromPassword accountId record first.2 second.2)
    (met : Unrevealing accepts accountId second surroundings) :
    Alike binding accountId record (tick config binding id first surroundings).1
        (tick config binding id second surroundings).1 ∧
      Paired binding fromPassword accountId record (tick config binding id first surroundings).2
        (tick config binding id second surroundings).2 := by
  apply paired_perform laws (alike.sweepAll surroundings.sweeps) paired
  · intro login hasPending phase
    rw [Unrevealing, phase] at met
    exact met
  · intro login phase
    rw [Unrevealing, phase] at met
    exact met

theorem paired_ticks {id : RequestId} (ticks : List Surroundings) {first second : Handler}
    (alike : Alike binding accountId record first.1 second.1)
    (paired : Paired binding fromPassword accountId record first.2 second.2)
    (met : Every (fun handler surroundings => some (tick config binding id handler surroundings))
      (Unrevealing accepts accountId) second ticks) :
    Alike binding accountId record (ticks.foldl (tick config binding id) first).1
        (ticks.foldl (tick config binding id) second).1 ∧
      Paired binding fromPassword accountId record (ticks.foldl (tick config binding id) first).2
        (ticks.foldl (tick config binding id) second).2 := by
  induction ticks generalizing first second with
  | nil => exact ⟨alike, paired⟩
  | cons surroundings rest ih =>
      obtain ⟨here, later⟩ := met _ rfl
      obtain ⟨nextAlike, nextPaired⟩ :=
        paired_tick laws config id alike paired here
      exact ih nextAlike nextPaired later

theorem paired_serve (attempt : Attempt)
    (alike : Alike binding accountId record present absent)
    (ignorant : ∀ login, readLogin config.backend attempt.request.body = .ok login →
      login.accountId = accountId → ¬ fromPassword login.message)
    (met : attempt.Unrevealing config binding accepts accountId absent) :
    Alike binding accountId record (serve config binding present attempt).1
        (serve config binding absent attempt).1 ∧
      (serve config binding present attempt).2.response =
        (serve config binding absent attempt).2.response := by
  obtain ⟨same, arrived⟩ := alike.arrive config attempt.request attempt.now
  have paired : Paired binding fromPassword accountId record
      (enter config present attempt).2 (enter config absent attempt).2 := by
    rw [enter, enter, same]
    obtain ⟨-, -, -, ⟨answer, goes⟩ | ⟨login, hasPending, read, goes⟩⟩ :=
      arrive_cases config attempt.request attempt.now absent
    · simp only [goes]
      exact .answered _ _ rfl
    · simp only [goes]
      apply Paired.same
      rintro _ ⟨⟩ mine
      exact ⟨rfl, ignorant login read mine⟩
  obtain ⟨servedAlike, servedPaired⟩ := paired_ticks laws _ arrived paired met
  exact ⟨servedAlike, servedPaired.response (serve_answers present attempt)⟩

theorem responses_alike (attempts : List Attempt)
    (alike : Alike binding accountId record present absent)
    (ignorant : ∀ attempt ∈ attempts, ∀ login,
      readLogin config.backend attempt.request.body = .ok login →
        login.accountId = accountId → ¬ fromPassword login.message)
    (met : Every (fun server attempt => some (serve config binding server attempt).1)
      (fun server attempt => attempt.Unrevealing config binding accepts accountId server)
      absent attempts) :
    responses config binding present attempts = responses config binding absent attempts := by
  induction attempts generalizing present absent with
  | nil => rfl
  | cons attempt rest ih =>
      obtain ⟨here, later⟩ := met _ rfl
      obtain ⟨nextAlike, same⟩ :=
        paired_serve laws attempt alike (ignorant attempt List.mem_cons_self) here
      have rest' := ih nextAlike (fun other member => ignorant other (List.mem_cons_of_mem _ member))
        later
      rw [responses, responses, same, rest']

end Sequences

theorem alike_start (server : LoginServer) (accountId : Id) (createdAt : Nat) (record : Bytes)
    (idle : server.states accountId = none) :
    Alike binding accountId record (server.withCredential accountId createdAt record)
      (server.withoutCredential accountId) := by
  constructor
  · exact ⟨fun _ _ => rfl, by simpa [LoginServer.withCredential, LoginServer.withoutCredential, idle]
      using Shadow.nothing⟩
  · rfl
  · rfl
  · intro other apart
    simp [LoginServer.withCredential, LoginServer.withoutCredential, apart]
  · simp [LoginServer.withCredential]
  · intro other apart
    simp [LoginServer.withCredential, LoginServer.withoutCredential, apart]
  · simp [LoginServer.withCredential]
  · simp [LoginServer.withoutCredential]

theorem responses_answered (server : LoginServer) (attempts : List Attempt) :
    ∀ response ∈ responses config binding server attempts, response.isSome = true := by
  induction attempts generalizing server with
  | nil => simp [responses]
  | cons attempt rest ih =>
      intro response member
      rw [responses, List.mem_cons] at member
      rcases member with rfl | member
      · exact serve_answers server attempt
      · exact ih _ response member

theorem login_parity (config : LoginConfig) (binding : OpaqueBinding) (accepts : Bytes → Bool)
    (fromPassword : Bytes → Prop) (accountId : Id) (record : Bytes)
    (laws : BindingLaws binding accepts fromPassword accountId record)
    (server : LoginServer) (createdAt : Nat) (idle : server.states accountId = none)
    (attempts : List Attempt)
    (ignorant : ∀ attempt ∈ attempts, ∀ login,
      readLogin config.backend attempt.request.body = .ok login →
        login.accountId = accountId → ¬ fromPassword login.message)
    (met : Every (fun server attempt => some (serve config binding server attempt).1)
      (fun server attempt => attempt.Unrevealing config binding accepts accountId server)
      (server.withoutCredential accountId) attempts) :
    responses config binding (server.withCredential accountId createdAt record) attempts =
        responses config binding (server.withoutCredential accountId) attempts ∧
      ∀ response ∈ responses config binding (server.withoutCredential accountId) attempts,
        response.isSome = true :=
  ⟨responses_alike laws attempts (alike_start server accountId createdAt record idle) ignorant met,
    responses_answered _ attempts⟩

section Sample

def acceptsSample (ke1 : Bytes) : Bool := decide (ke1.head? ≠ some 255)

theorem sampleBinding_laws :
    BindingLaws sampleBinding acceptsSample (fun ke3 => ke3 = [7]) "alice" [7] where
  start_isSome _ record _ ke1 := by
    by_cases rejected : ke1.head? = some 255 <;> simp [sampleBinding, acceptsSample, rejected]
  ke2_length _ record _ ke1 stateBytes ke2 started := by
    by_cases rejected : ke1.head? = some 255
    · simp [sampleBinding, rejected] at started
    · simp only [sampleBinding, rejected, if_false, Option.some.injEq, Prod.mk.injEq] at started
      simp [← started.2]
  finish_rejects _ ke1 stateBytes ke2 ke3 started other := by
    by_cases rejected : ke1.head? = some 255
    · simp [sampleBinding, rejected] at started
    · simp only [sampleBinding, rejected, if_false, Option.some.injEq, Prod.mk.injEq] at started
      simpa [sampleBinding, ← started.1] using other

def sampleAttempt (message : Bytes) : Attempt := ⟨0, loginRequest message, 0, fun _ => calm 0⟩

theorem readLogin_loginRequest (backend : Backend) (message : Bytes) :
    readLogin backend (loginRequest message).body = .ok ⟨"alice", message⟩ := by
  have valid : isValidAccountId "alice" = true := by decide +kernel
  simp [readLogin, loginRequest, decodeB64_encodeB64, valid]

theorem ignorant_sampleAttempts (backend : Backend) (messages : List Bytes)
    (others : [7] ∉ messages) :
    ∀ attempt ∈ messages.map sampleAttempt, ∀ login,
      readLogin backend attempt.request.body = .ok login →
        login.accountId = "alice" → ¬ login.message = [7] := by
  intro attempt member login read _
  obtain ⟨message, among, rfl⟩ := List.mem_map.mp member
  cases (readLogin_loginRequest backend message).symm.trans read
  rintro rfl
  exact others among

def wrongKe3 : List Attempt := [List.replicate ke1Length 0, [8], [9]].map sampleAttempt

/-- A first leg, a wrong KE3 and a message that is too short. -/
theorem login_parity_wrongKe3 :
    responses (sampleConfig .rust) sampleBinding
        (LoginServer.initial.withCredential "alice" 0 [7]) wrongKe3 =
      responses (sampleConfig .rust) sampleBinding
        (LoginServer.initial.withoutCredential "alice") wrongKe3 :=
  (login_parity (sampleConfig .rust) sampleBinding acceptsSample (fun ke3 => ke3 = [7]) "alice" [7]
    sampleBinding_laws LoginServer.initial 0 rfl wrongKe3
    (ignorant_sampleAttempts .rust _ (by decide)) (by decide +kernel)).1

/-- An account that exists answers 401 to such a KE1, one that does not answers 200. -/
theorem rejected_start_reveals_account :
    ¬ ∃ backend : Backend, ∀ (binding : OpaqueBinding) (accepts : Bytes → Bool)
      (fromPassword : Bytes → Prop) (accountId : Id) (record : Bytes) (server : LoginServer)
      (createdAt : Nat) (attempts : List Attempt),
        BindingLaws binding accepts fromPassword accountId record →
        server.states accountId = none →
        (∀ attempt ∈ attempts, ∀ login,
          readLogin (sampleConfig backend).backend attempt.request.body = .ok login →
            login.accountId = accountId → ¬ fromPassword login.message) →
        responses (sampleConfig backend) binding
            (server.withCredential accountId createdAt record) attempts =
          responses (sampleConfig backend) binding (server.withoutCredential accountId)
            attempts := by
  rintro ⟨backend, always⟩
  have same := always sampleBinding acceptsSample (fun ke3 => ke3 = [7]) "alice" [7]
    LoginServer.initial 0 ([List.replicate ke1Length 255].map sampleAttempt) sampleBinding_laws rfl
    (ignorant_sampleAttempts backend _ (by decide))
  revert same
  cases backend <;> decide +kernel

end Sample

end ZenPass.Auth
