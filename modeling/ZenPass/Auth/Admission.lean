import ZenPass.Auth.Registration
import ZenPass.Lib.FixedWindow

set_option autoImplicit false

namespace ZenPass.Auth

open Wire Transition
open Sync (Id Backend)

structure Admission where
  key : String
  now : Nat
  accountId : Id
  admitted : Bool
deriving DecidableEq, Repr

def Admission.Within (admission : Admission) (key : String) (start window : Nat) : Prop :=
  admission.key = key ∧ start ≤ admission.now ∧ admission.now < start + window

instance (admission : Admission) (key : String) (start window : Nat) :
    Decidable (admission.Within key start window) :=
  inferInstanceAs (Decidable (_ ∧ _ ∧ _))

def admittedIn (key : String) (start window : Nat) (admissions : List Admission) : Nat :=
  admissions.countP fun admission =>
    admission.admitted && decide (admission.Within key start window)

def RegisterPhase.login : RegisterPhase → Option Login
  | .registrationStep login | .ensureAccount login _ | .checkAndIncrement login _ => some login
  | .saveCredentialRecord login _ => some login
  | .answered _ | .dropped => none

def HasRow (server : LoginServer) (registerLimits : Id → Windows) (accountId : Id) : Prop :=
  (server.accounts accountId).isSome = true ∨ (server.credentials accountId).isSome = true ∨
    server.limits accountId ≠ [] ∨ registerLimits accountId ≠ []

def Asks {φ : Type} (login : φ → Option Login) (phases : RequestId → Option φ) (accountId : Id) :
    Prop :=
  ∃ id phase asked, phases id = some phase ∧ login phase = some asked ∧ asked.accountId = accountId

def AuthAction.isRestart : AuthAction → Bool
  | .restart => true
  | .arriveLogin .. | .advanceLogin .. | .arriveRegister .. | .advanceRegister .. => false

def restarts (actions : List AuthAction) : Nat := actions.countP AuthAction.isRestart

namespace AuthSystem

def admission (config : LoginConfig) (system : AuthSystem) : AuthAction → Option Admission
  | .arriveLogin _ request now =>
      match readLogin config.backend request.body with
      | .error _ => none
      | .ok login =>
          if !system.logins.server.states.hasPending login.accountId now &&
              decide (login.message.length ≠ ke1Length) then none
          else
            some ⟨request.admissionKey, now, login.accountId,
              system.logins.server.buckets.allow request.admissionKey now config.admissionWindow
                config.admissionMax⟩
  | .arriveRegister _ request now =>
      match readRegister config.backend request.body with
      | .error _ => none
      | .ok login =>
          some ⟨request.admissionKey, now, login.accountId,
            system.logins.server.buckets.allow request.admissionKey now config.admissionWindow
              config.admissionMax⟩
  | .advanceLogin .. | .advanceRegister .. | .restart => none

def admissions (config : LoginConfig) (binding : OpaqueBinding)
    (registration : RegistrationBinding) (system : AuthSystem) (actions : List AuthAction) :
    List Admission :=
  observed (step config binding registration)
    (fun system action _ => system.admission config action) system actions

/-- The account is in the tables, or a request for it is on its way to them. -/
def Knows (system : AuthSystem) (accountId : Id) : Prop :=
  HasRow system.logins.server system.registerLimits accountId ∨
    Asks LoginPhase.login system.logins.phases accountId ∨
    Asks RegisterPhase.login system.phases accountId

end AuthSystem

section Rows

variable {server : LoginServer} {registerLimits : Id → Windows} {accountId : Id}

theorem row_of_update {β : Type} {table : Id → β} {asked : Id} {value : β} {P : β → Prop}
    (row : P (Function.update table asked value accountId)) :
    asked = accountId ∨ P (table accountId) := by
  by_cases same : accountId = asked
  · exact .inl same.symm
  · rw [Function.update_of_ne same] at row
    exact .inr row

theorem HasRow.ensureAccount {asked : Id} {now : Nat}
    (row : HasRow (server.ensureAccount asked now) registerLimits accountId) :
    asked = accountId ∨ HasRow server registerLimits accountId := by
  rcases row with account | rest
  · exact (row_of_update (P := fun row : Option _ => row.isSome = true) account).imp_right .inl
  · exact .inr (.inr rest)

theorem HasRow.increment {asked : Id} {now window : Nat}
    (row : HasRow (server.increment asked now window) registerLimits accountId) :
    asked = accountId ∨ HasRow server registerLimits accountId := by
  rcases row with account | credential | limit | register
  · exact .inr (.inl account)
  · exact .inr (.inr (.inl credential))
  · exact (row_of_update (P := fun rows : Windows => rows ≠ []) limit).imp_right
      (.inr ∘ .inr ∘ .inl)
  · exact .inr (.inr (.inr (.inr register)))

theorem HasRow.incrementRegister {config : LoginConfig} {asked : Id} {now : Nat}
    (row : HasRow server (incrementRegister config registerLimits asked now) accountId) :
    asked = accountId ∨ HasRow server registerLimits accountId := by
  rcases row with account | credential | limit | register
  · exact .inr (.inl account)
  · exact .inr (.inr (.inl credential))
  · exact .inr (.inr (.inr (.inl limit)))
  · exact (row_of_update (P := fun rows : Windows => rows ≠ []) register).imp_right
      (.inr ∘ .inr ∘ .inr)

theorem HasRow.saveCredential {asked : Id} {record : Bytes}
    (row : HasRow (server.saveCredentialRecordIfAbsent asked record) registerLimits accountId) :
    asked = accountId ∨ HasRow server registerLimits accountId := by
  rcases row with account | credential | rest
  · exact .inr (.inl account)
  · exact (row_of_update (P := fun row : Option _ => row.isSome = true) credential).imp_right
      (.inr ∘ .inl)
  · exact .inr (.inr (.inr rest))

theorem filter_ne_nil {α : Type} {p : α → Bool} {rows : List α} (left : rows.filter p ≠ []) :
    rows ≠ [] := by
  rintro rfl
  exact left rfl

theorem HasRow.sweep (sweep : Sweep)
    (row : HasRow (server.sweep sweep) (sweepWindows registerLimits sweep) accountId) :
    HasRow server registerLimits accountId := by
  cases sweep with
  | rateLimits cutoff =>
      rcases row with account | credential | limit | register
      · exact .inl account
      · exact .inr (.inl credential)
      · exact .inr (.inr (.inl (filter_ne_nil limit)))
      · exact .inr (.inr (.inr (filter_ne_nil register)))
  | accounts cutoff referenced =>
      rcases row with account | rest
      · refine .inl ?_
        obtain ⟨createdAt, kept⟩ := Option.isSome_iff_exists.mp account
        exact Option.isSome_iff_exists.mpr ⟨createdAt, (Option.filter_eq_some_iff.mp kept).1⟩
      · exact .inr rest

theorem sweepAll_buckets (sweeps : List Sweep) :
    (server.sweepAll sweeps).buckets = server.buckets := by
  induction sweeps generalizing server with
  | nil => rfl
  | cons sweep rest ih =>
      rw [LoginServer.sweepAll, List.foldl_cons]
      refine ih.trans ?_
      cases sweep with
      | rateLimits => rfl
      | accounts => rfl

theorem HasRow.sweepAll (sweeps : List Sweep)
    (row : HasRow (server.sweepAll sweeps) (sweeps.foldl sweepWindows registerLimits) accountId) :
    HasRow server registerLimits accountId := by
  induction sweeps generalizing server registerLimits with
  | nil => exact row
  | cons sweep rest ih => exact (ih row).sweep

end Rows

theorem Asks.of_update {φ : Type} {login : φ → Option Login} {phases : RequestId → Option φ}
    {id : RequestId} {phase : φ} {accountId : Id}
    (asks : Asks login (Function.update phases id (some phase)) accountId) :
    (∃ asked, login phase = some asked ∧ asked.accountId = accountId) ∨
      Asks login phases accountId := by
  obtain ⟨other, there, asked, found, is, same⟩ := asks
  by_cases this : other = id
  · rw [this, Function.update_self, Option.some.injEq] at found
    subst found
    exact .inl ⟨asked, is, same⟩
  · rw [Function.update_of_ne this] at found
    exact .inr ⟨other, there, asked, found, is, same⟩

theorem not_asks_map {φ : Type} {login : φ → Option Login} {phases : RequestId → Option φ} {lost : φ}
    {accountId : Id} (gone : login lost = none) :
    ¬ Asks login (fun id => (phases id).map fun _ => lost) accountId := by
  rintro ⟨id, phase, asked, found, is, -⟩
  obtain ⟨_, -, rfl⟩ := Option.map_eq_some_iff.mp found
  cases gone.symm.trans is

/-- A step of a request for an account: rows are of that account or were there, the limiter is left
alone, and the request goes on for the same account. -/
structure Confined (asked : Option Login) (server : LoginServer) (registerLimits : Id → Windows)
    (after : LoginServer) (afterLimits : Id → Windows) (next : Option Login) : Prop where
  rows : ∀ accountId, HasRow after afterLimits accountId →
    HasRow server registerLimits accountId ∨
      ∃ login, asked = some login ∧ login.accountId = accountId
  buckets : after.buckets = server.buckets
  login : ∀ login, next = some login → asked = some login

section Steps

variable {config : LoginConfig} {binding : OpaqueBinding} {server : LoginServer}
  {registerLimits : Id → Windows}

theorem confined_quiet {asked next : Option Login} (states : LoginStates)
    (login : ∀ login, next = some login → asked = some login) :
    Confined asked server registerLimits { server with states } registerLimits next where
  rows _ row := .inl row
  buckets := rfl
  login := login

theorem confined_closed {asked : Option Login} (states : LoginStates) :
    Confined asked server registerLimits { server with states } registerLimits none :=
  confined_quiet states fun _ same => by cases same

theorem Confined.of_row {login : Login} {after : LoginServer} {afterLimits : Id → Windows}
    {next : Option Login}
    (rows : ∀ accountId, HasRow after afterLimits accountId →
      login.accountId = accountId ∨ HasRow server registerLimits accountId)
    (buckets : after.buckets = server.buckets)
    (goesOn : ∀ other, next = some other → login = other) :
    Confined (some login) server registerLimits after afterLimits next where
  rows accountId row := (rows accountId row).symm.imp_right fun same => ⟨login, rfl, same⟩
  buckets := buckets
  login other continues := congrArg some (goesOn other continues)

theorem finishLogin_login {login other : Login} {stateBytes : Bytes} {storedBy : RequestId}
    (continues : (finishLogin binding login stateBytes storedBy).login = some other) :
    some login = some other := by
  unfold finishLogin at continues
  split at continues
  · exact continues
  · cases continues

theorem takePending_confined {id : RequestId} {login : Login} {now : Nat} :
    Confined (some login) server registerLimits
      (takePending config binding id login now server).server registerLimits
      (takePending config binding id login now server).phase.login := by
  unfold takePending
  dsimp only
  split
  · exact confined_closed _
  · split
    · exact confined_closed _
    · cases config.backend with
      | node => exact confined_quiet _ fun _ continues => finishLogin_login continues
      | rust => exact confined_quiet _ fun _ continues => continues

theorem perform_confined {id : RequestId} {surroundings : Surroundings} (phase : LoginPhase) :
    Confined phase.login server registerLimits
      (perform config binding id surroundings server phase).server registerLimits
      (perform config binding id surroundings server phase).phase.login := by
  cases phase with
  | ensureAccount login hasPending =>
      simp only [perform]
      split
      · exact confined_closed _
      · exact .of_row (fun _ row => row.ensureAccount) rfl fun _ same => Option.some.inj same
  | checkAndIncrement login hasPending =>
      simp only [perform]
      split
      · exact confined_closed _
      · refine .of_row (fun _ row => row.increment) rfl fun other continues => ?_
        split at continues
        · exact Option.some.inj continues
        · cases continues
  | ready login hasPending =>
      simp only [perform]
      split
      · exact confined_closed _
      · split
        · exact takePending_confined
        · exact confined_quiet _ fun _ same => same
  | getCredentialRecord login =>
      simp only [perform]
      split
      · exact confined_closed _
      · exact confined_quiet _ fun _ same => same
  | loginStart login credentialRecord =>
      cases credentialRecord with
      | none => exact confined_closed _
      | some record =>
          simp only [perform]
          split
          · exact confined_closed _
          · exact confined_closed _
  | loginFinish login stateBytes storedBy =>
      exact confined_quiet _ fun _ continues => finishLogin_login continues
  | issueSession login storedBy =>
      simp only [perform]
      split
      · exact confined_closed _
      · exact confined_closed _
  | answered answer => exact confined_closed _
  | dropped => exact confined_closed _

theorem performRegister_confined {registration : RegistrationBinding} {surroundings : Surroundings}
    (phase : RegisterPhase) :
    let stepped := performRegister config registration surroundings server registerLimits phase
    Confined phase.login server registerLimits stepped.server stepped.registerLimits
      stepped.phase.login := by
  cases phase with
  | registrationStep login =>
      simp only [performRegister]
      split
      · exact confined_closed _
      · split
        · exact confined_closed _
        · exact confined_quiet _ fun _ same => same
  | ensureAccount login step =>
      simp only [performRegister]
      split
      · exact confined_closed _
      · exact .of_row (fun _ row => row.ensureAccount) rfl fun _ same => Option.some.inj same
  | checkAndIncrement login step =>
      simp only [performRegister]
      split
      · exact confined_closed _
      · refine .of_row (fun _ row => row.incrementRegister) rfl fun other continues => ?_
        split at continues
        · cases step with
          | response => cases continues
          | record => exact Option.some.inj continues
        · cases continues
  | saveCredentialRecord login record =>
      simp only [performRegister]
      split
      · exact confined_closed _
      · exact .of_row (fun _ row => row.saveCredential) rfl fun _ same => by cases same
  | answered answer => exact confined_closed _
  | dropped => exact confined_closed _

theorem Confined.after_sweeps {asked next : Option Login} {after : LoginServer}
    {afterLimits : Id → Windows} (sweeps : List Sweep)
    (confined : Confined asked (server.sweepAll sweeps) (sweeps.foldl sweepWindows registerLimits)
      after afterLimits next) :
    Confined asked server registerLimits after afterLimits next where
  rows accountId row := (confined.rows accountId row).imp_left (.sweepAll sweeps)
  buckets := confined.buckets.trans (sweepAll_buckets sweeps)
  login := confined.login

def Bucket.counter (bucket : Bucket) : FixedWindow.Counter := ⟨bucket.count, bucket.windowEnd⟩

def Buckets.counter (buckets : Buckets) (key : String) : Option FixedWindow.Counter :=
  (buckets key).map Bucket.counter

theorem counter_evict (bucket : Option Bucket) (now : Nat) :
    (bucket.filter fun bucket => decide (now < bucket.windowEnd)).map Bucket.counter =
      FixedWindow.evict (bucket.map Bucket.counter) now := by
  cases bucket with
  | none => rfl
  | some bucket =>
      simp only [FixedWindow.evict, Option.map_some, Option.filter_some, Bucket.counter]
      split <;> rfl

theorem counter_attempt (buckets : Buckets) (key : String) (now window : Nat) :
    (buckets.attempt key now window).counter =
      FixedWindow.attempt (buckets.counter key) now window := by
  rw [FixedWindow.attempt, Buckets.counter, ← counter_evict, Buckets.attempt]
  cases (buckets key).filter fun bucket => decide (now < bucket.windowEnd) with
  | none => rfl
  | some bucket => rfl

def Limits (config : LoginConfig) (before after : Buckets) : Option Admission → Prop
  | none => after = before
  | some admission =>
      admission.admitted = decide ((FixedWindow.attempt (before.counter admission.key) admission.now
        config.admissionWindow).count ≤ config.admissionMax) ∧
      after.counter admission.key = some (FixedWindow.attempt (before.counter admission.key)
        admission.now config.admissionWindow) ∧
      ∀ other, other ≠ admission.key →
        after.counter other = FixedWindow.evict (before.counter other) admission.now

theorem limits_allow (buckets : Buckets) (key : String) (now : Nat) (accountId : Id) :
    Limits config buckets (buckets.afterAllow key now config.admissionWindow)
      (some ⟨key, now, accountId,
        buckets.allow key now config.admissionWindow config.admissionMax⟩) := by
  refine ⟨?_, ?_, ?_⟩
  · rw [← counter_attempt]
    rfl
  · rw [← counter_attempt, Buckets.counter, Buckets.afterAllow, Function.update_self,
      Option.map_some]
  · intro other apart
    rw [Buckets.counter, Buckets.afterAllow, Function.update_of_ne apart, counter_evict]
    rfl

end Steps

namespace AuthSystem

variable {config : LoginConfig} {binding : OpaqueBinding} {registration : RegistrationBinding}
  {system next : AuthSystem}

/-- What becomes known of an account was admitted, and the limiter has counted the question. -/
structure Guarded (config : LoginConfig) (system next : AuthSystem) (asked : Option Admission) :
    Prop where
  knows : ∀ accountId, next.Knows accountId → system.Knows accountId ∨
    ∃ admission, asked = some admission ∧ admission.admitted = true ∧
      admission.accountId = accountId
  limits : Limits config system.logins.server.buckets next.logins.server.buckets asked

theorem guarded_login {id : RequestId} {phase : LoginPhase} (stepped : LoginStep)
    (registerLimits : Id → Windows) (open' : system.logins.phases id = some phase)
    (confined : Confined phase.login system.logins.server system.registerLimits stepped.server
      registerLimits stepped.phase.login) :
    Guarded config system
      { system with logins := system.logins.after id stepped, registerLimits } none where
  knows accountId known := by
    refine .inl ?_
    have asks : ∀ login, phase.login = some login → login.accountId = accountId →
        system.Knows accountId := fun login is same => .inr (.inl ⟨id, phase, login, open', is, same⟩)
    rcases known with row | logging | registering
    · rcases confined.rows accountId row with before | ⟨login, is, same⟩
      · exact .inl before
      · exact asks login is same
    · rcases logging.of_update with ⟨login, is, same⟩ | before
      · exact asks login (confined.login login is) same
      · exact .inr (.inl before)
    · exact .inr (.inr registering)
  limits := confined.buckets

theorem guarded_register {id : RequestId} {phase : RegisterPhase} (stepped : RegisterStep)
    (open' : system.phases id = some phase)
    (confined : Confined phase.login system.logins.server system.registerLimits stepped.server
      stepped.registerLimits stepped.phase.login) :
    Guarded config system (system.after id stepped) none where
  knows accountId known := by
    refine .inl ?_
    have asks : ∀ login, phase.login = some login → login.accountId = accountId →
        system.Knows accountId := fun login is same => .inr (.inr ⟨id, phase, login, open', is, same⟩)
    rcases known with row | logging | registering
    · rcases confined.rows accountId row with before | ⟨login, is, same⟩
      · exact .inl before
      · exact asks login is same
    · exact .inr (.inl logging)
    · rcases registering.of_update with ⟨login, is, same⟩ | before
      · exact asks login (confined.login login is) same
      · exact .inr (.inr before)
  limits := confined.buckets

structure Arrives (system : AuthSystem) (asked : Option Admission) (server : LoginServer)
    (registerLimits : Id → Windows) (entered : Option Login) : Prop where
  rows : ∀ accountId, HasRow server registerLimits accountId →
    HasRow system.logins.server system.registerLimits accountId
  admitted : ∀ login, entered = some login → ∃ admission, asked = some admission ∧
    admission.admitted = true ∧ admission.accountId = login.accountId

theorem arriveLogin_guarded (id : RequestId) (request : LoginRequest) (now : Nat) :
    let stepped := arrive config request now system.logins.server
    let asked := system.admission config (.arriveLogin id request now)
    Arrives system asked stepped.server system.registerLimits stepped.phase.login ∧
      Limits config system.logins.server.buckets stepped.server.buckets asked := by
  cases read : readLogin config.backend request.body with
  | error answer =>
      simp only [arrive, admission, read]
      exact ⟨⟨fun _ row => row, fun _ same => by cases same⟩, rfl⟩
  | ok login =>
      simp only [arrive, admission, read]
      split
      · exact ⟨⟨fun _ row => row, fun _ same => by cases same⟩, rfl⟩
      · split
        next allowed =>
          refine ⟨⟨fun _ row => row, fun other same => ⟨_, rfl, allowed, ?_⟩⟩, limits_allow _ _ _ _⟩
          cases same
          rfl
        · exact ⟨⟨fun _ row => row, fun _ same => by cases same⟩, limits_allow _ _ _ _⟩

theorem arriveRegister_guarded (id : RequestId) (request : RegisterRequest) (now : Nat) :
    let stepped := Auth.arriveRegister config request now system.logins.server
      system.registerLimits
    let asked := system.admission config (.arriveRegister id request now)
    Arrives system asked stepped.server stepped.registerLimits stepped.phase.login ∧
      Limits config system.logins.server.buckets stepped.server.buckets asked := by
  cases read : readRegister config.backend request.body with
  | error answer =>
      simp only [Auth.arriveRegister, admission, read]
      exact ⟨⟨fun _ row => row, fun _ same => by cases same⟩, rfl⟩
  | ok login =>
      simp only [Auth.arriveRegister, admission, read]
      split
      next allowed =>
        refine ⟨⟨fun _ row => row, fun other same => ⟨_, rfl, allowed, ?_⟩⟩, limits_allow _ _ _ _⟩
        cases same
        rfl
      · exact ⟨⟨fun _ row => row, fun _ same => by cases same⟩, limits_allow _ _ _ _⟩

theorem guarded_step (action : AuthAction)
    (stepped : system.step config binding registration action = some next)
    (running : action.isRestart = false) :
    Guarded config system next (system.admission config action) := by
  cases action with
  | arriveLogin id request now =>
      have arrival := @arriveLogin_guarded config system id request now
      simp only [step, login, LoginSystem.step, Option.map_eq_some_iff] at stepped
      obtain ⟨logins, stepped, rfl⟩ := stepped
      split at stepped
      · cases stepped
      · cases stepped
        refine ⟨?_, arrival.2⟩
        rintro accountId (row | logging | registering)
        · exact .inl (.inl (arrival.1.rows accountId row))
        · rcases logging.of_update with ⟨login, is, same⟩ | before
          · exact .inr (same ▸ arrival.1.admitted login is)
          · exact .inl (.inr (.inl before))
        · exact .inl (.inr (.inr registering))
  | advanceLogin id surroundings =>
      simp only [step, login, LoginSystem.step, Option.map_eq_some_iff] at stepped
      obtain ⟨_, ⟨phase, open', rfl⟩, rfl⟩ := stepped
      exact guarded_login _ _ open' (perform_confined phase).after_sweeps
  | arriveRegister id request now =>
      have arrival := @arriveRegister_guarded config system id request now
      simp only [step] at stepped
      split at stepped
      · cases stepped
      · cases stepped
        refine ⟨?_, arrival.2⟩
        rintro accountId (row | logging | registering)
        · exact .inl (.inl (arrival.1.rows accountId row))
        · exact .inl (.inr (.inl logging))
        · rcases registering.of_update with ⟨login, is, same⟩ | before
          · exact .inr (same ▸ arrival.1.admitted login is)
          · exact .inl (.inr (.inr before))
  | advanceRegister id surroundings =>
      simp only [step, Option.map_eq_some_iff] at stepped
      obtain ⟨phase, open', rfl⟩ := stepped
      exact guarded_register _ open' (performRegister_confined phase).after_sweeps
  | restart => cases running

theorem knows_restart
    (stepped : system.step config binding registration .restart = some next) :
    (∀ accountId, next.Knows accountId → system.Knows accountId) ∧
      ∀ key, next.logins.server.buckets.counter key = none := by
  simp only [step, login, LoginSystem.step, Option.map_some, Option.some.injEq] at stepped
  subst stepped
  refine ⟨?_, fun _ => rfl⟩
  rintro accountId (row | logging | registering)
  · exact .inl row
  · exact absurd logging (not_asks_map rfl)
  · exact absurd registering (not_asks_map rfl)

theorem knows_run {actions : List AuthAction}
    (ran : run (step config binding registration) system actions = some next) (accountId : Id)
    (known : next.Knows accountId) :
    system.Knows accountId ∨ ∃ admission ∈ admissions config binding registration system actions,
      admission.admitted = true ∧ admission.accountId = accountId := by
  have kept := @observed_preserves _ _ (step config binding registration) _
    (fun system action _ => system.admission config action)
    (fun seen state => ∀ accountId, state.Knows accountId →
      system.Knows accountId ∨ ∃ admission ∈ seen, admission.admitted = true ∧
        admission.accountId = accountId) ?_ [] _ _ _ (fun _ => .inl) ran
  · rw [List.nil_append] at kept
    exact kept accountId known
  · intro seen state action next before stepped accountId known
    have earlier (was : state.Knows accountId) : system.Knows accountId ∨
        ∃ admission ∈ seen ++ (state.admission config action).toList, admission.admitted = true ∧
          admission.accountId = accountId := by
      refine (before accountId was).imp_right ?_
      rintro ⟨admission, member, is⟩
      exact ⟨admission, List.mem_append_left _ member, is⟩
    cases running : action.isRestart with
    | false =>
        rcases (guarded_step action stepped running).knows accountId known with
          was | ⟨admission, asked, is⟩
        · exact earlier was
        · exact .inr ⟨admission, List.mem_append_right _ (by simp [asked]), is⟩
    | true =>
        cases action with
        | restart => exact earlier ((knows_restart stepped).1 accountId known)
        | arriveLogin | advanceLogin | arriveRegister | advanceRegister => cases running

/-- Counters are of questions of their key, and a question that comes after a quiet window is
admitted. -/
structure Dated (config : LoginConfig) (seen : List Admission) (system : AuthSystem) : Prop where
  opened : ∀ key live, system.logins.server.buckets.counter key = some live →
    ∃ admission ∈ seen, admission.key = key ∧
      live.windowEnd = admission.now + config.admissionWindow
  quiet : ∀ before admission after, seen = before ++ admission :: after →
    (∀ earlier ∈ before, earlier.key = admission.key →
      earlier.now + config.admissionWindow ≤ admission.now) →
    1 ≤ config.admissionMax → admission.admitted = true

theorem dated_initial : Dated config [] initial where
  opened _ _ found := by cases found
  quiet _ _ _ split := by simp at split

theorem Dated.limits {seen : List Admission} {asked : Option Admission}
    (dated : Dated config seen system)
    (limits : Limits config system.logins.server.buckets next.logins.server.buckets asked) :
    Dated config (seen ++ asked.toList) next := by
  cases asked with
  | none =>
      rw [Limits] at limits
      simp only [Option.toList_none, List.append_nil]
      exact ⟨limits ▸ dated.opened, dated.quiet⟩
  | some admission =>
      obtain ⟨answer, counted, others⟩ := limits
      simp only [Option.toList_some]
      have carried : ∀ key live, system.logins.server.buckets.counter key = some live →
          ∃ other ∈ seen ++ [admission], other.key = key ∧
            live.windowEnd = other.now + config.admissionWindow := by
        intro key live found
        obtain ⟨other, member, is⟩ := dated.opened key live found
        exact ⟨other, List.mem_append_left _ member, is⟩
      constructor
      · intro key live found
        by_cases same : key = admission.key
        · subst same
          rw [counted, Option.some.injEq] at found
          cases evicted : FixedWindow.evict (system.logins.server.buckets.counter admission.key)
              admission.now with
          | none =>
              rw [FixedWindow.attempt, evicted] at found
              exact ⟨admission, by simp, rfl, by rw [← found]⟩
          | some window =>
              rw [FixedWindow.attempt, evicted] at found
              obtain ⟨other, member, is, ends⟩ :=
                carried _ window (FixedWindow.evict_eq_some.mp evicted).1
              exact ⟨other, member, is, by rw [← found]; exact ends⟩
        · rw [others key same] at found
          exact carried key live (FixedWindow.evict_eq_some.mp found).1
      · intro before last after split quiet most
        rcases List.eq_nil_or_concat after with rfl | ⟨more, final, rfl⟩
        · obtain ⟨rfl, same⟩ := List.append_inj' split rfl
          cases same
          have closed : ∀ live,
              system.logins.server.buckets.counter admission.key = some live →
              live.windowEnd ≤ admission.now := by
            intro live found
            obtain ⟨other, member, is, ends⟩ := dated.opened _ live found
            rw [ends]
            exact quiet other member is
          rw [answer, FixedWindow.attempt_fresh closed]
          exact decide_eq_true most
        · rw [List.concat_eq_append, ← List.cons_append, ← List.append_assoc] at split
          obtain ⟨earlier, -⟩ := List.append_inj' split rfl
          exact dated.quiet before last more earlier quiet most

theorem dated_run {actions : List AuthAction}
    (ran : run (step config binding registration) .initial actions = some system) :
    Dated config (admissions config binding registration .initial actions) system := by
  have kept := @observed_preserves _ _ (step config binding registration) _
    (fun system action _ => system.admission config action) (Dated config) ?_ [] _ _ _
    dated_initial ran
  · rw [List.nil_append] at kept
    exact kept
  · intro seen state action next before stepped
    cases running : action.isRestart with
    | false => exact before.limits (guarded_step action stepped running).limits
    | true =>
        cases action with
        | restart =>
            simp only [admission, Option.toList_none, List.append_nil]
            refine ⟨?_, before.quiet⟩
            intro key live found
            rw [(knows_restart stepped).2 key] at found
            cases found
        | arriveLogin | advanceLogin | arriveRegister | advanceRegister => cases running

theorem admittedIn_cons (key : String) (start window : Nat) (admission : Admission)
    (rest : List Admission) :
    admittedIn key start window (admission :: rest) = admittedIn key start window rest +
      if admission.admitted = true ∧ admission.Within key start window then 1 else 0 := by
  simp only [admittedIn, List.countP_cons, Bool.and_eq_true, decide_eq_true_eq]

theorem admits_eq {admission : Admission} {counter : Option FixedWindow.Counter} {start : Nat}
    (answer : admission.admitted = decide ((FixedWindow.attempt counter admission.now
      config.admissionWindow).count ≤ config.admissionMax)) :
    (if admission.admitted = true ∧ admission.Within admission.key start config.admissionWindow
      then 1 else 0) = FixedWindow.admits counter admission.now config.admissionWindow
        config.admissionMax start := by
  unfold FixedWindow.admits
  congr 1
  rw [answer, Admission.Within, decide_eq_true_eq, eq_iff_iff]
  constructor
  · rintro ⟨within, -, from', upTo⟩
    exact ⟨from', upTo, within⟩
  · rintro ⟨from', upTo, within⟩
    exact ⟨within, rfl, from', upTo⟩

theorem admitted_run {key : String} {start base admitted now : Nat} {actions : List AuthAction}
    (spent : FixedWindow.Spent config.admissionWindow config.admissionMax start base admitted now
      (system.logins.server.buckets.counter key))
    (ran : run (step config binding registration) system actions = some next)
    (later : ∀ admission ∈ admissions config binding registration system actions,
      now ≤ admission.now)
    (ordered : (admissions config binding registration system actions).Pairwise
      fun first second => first.now ≤ second.now) :
    admitted + admittedIn key start config.admissionWindow
        (admissions config binding registration system actions) ≤
      base + (restarts actions + 2) * config.admissionMax := by
  induction actions generalizing system base admitted now with
  | nil =>
      have bound := spent.le
      simpa [admissions, observed, admittedIn, restarts] using bound
  | cons action rest ih =>
      rw [run_cons, Option.bind_eq_some_iff] at ran
      obtain ⟨middle, stepped, ran⟩ := ran
      have shown : admissions config binding registration system (action :: rest) =
          (system.admission config action).toList ++
            admissions config binding registration middle rest := by
        rw [admissions, observed, stepped]
        rfl
      rw [shown] at later ordered ⊢
      cases running : action.isRestart with
      | true =>
          cases action with
          | restart =>
              have reset := spent.reset
              rw [← (knows_restart stepped).2 key] at reset
              have bound := ih reset ran later ordered
              have counted : restarts (.restart :: rest) = restarts rest + 1 :=
                List.countP_cons_of_pos rfl
              rw [counted, Nat.add_right_comm, Nat.add_mul (restarts rest + 2), Nat.one_mul]
              simp only [admission, Option.toList_none, List.nil_append]
              omega
          | arriveLogin | advanceLogin | arriveRegister | advanceRegister => cases running
      | false =>
          have limits := (guarded_step action stepped running).limits
          have counted : restarts (action :: rest) = restarts rest :=
            List.countP_cons_of_neg (by simp [running])
          rw [counted]
          cases asked : system.admission config action with
          | none =>
              rw [asked] at limits later ordered
              rw [Limits] at limits
              rw [← limits] at spent
              exact ih spent ran later ordered
          | some admission =>
              rw [asked] at limits later ordered
              obtain ⟨answer, here, others⟩ := limits
              simp only [Option.toList_some, List.singleton_append, List.pairwise_cons,
                List.mem_cons, forall_eq_or_imp] at later ordered ⊢
              have waited := spent.wait later.1
              by_cases same : admission.key = key
              · subst same
                have next := waited.attempt
                rw [← here] at next
                have bound := ih next ran ordered.1 ordered.2
                rw [← admits_eq answer] at bound
                rw [admittedIn_cons]
                omega
              · have next := waited.evict
                rw [← others key (Ne.symm same)] at next
                have bound := ih next ran ordered.1 ordered.2
                rw [admittedIn_cons, if_neg fun within => same within.2.1]
                exact bound

theorem Dated.recent {seen : List Admission} {now : Nat} (dated : Dated config seen system)
    (key : String) (order : ∀ earlier ∈ seen, earlier.now ≤ now)
    (live : FixedWindow.Counter) (found : system.logins.server.buckets.counter key = some live) :
    live.windowEnd ≤ now + config.admissionWindow := by
  obtain ⟨admission, member, -, ends⟩ := dated.opened key live found
  have before := order admission member
  omega

theorem accounts_le_admitted {accounts : List Id} {asked : List Admission} {key : String}
    {start window : Nat} (nodup : accounts.Nodup)
    (admitted : ∀ accountId ∈ accounts, ∃ admission ∈ asked, admission.admitted = true ∧
      admission.accountId = accountId ∧ admission.Within key start window) :
    accounts.length ≤ admittedIn key start window asked := by
  rw [admittedIn, List.countP_eq_length_filter, ← List.length_map Admission.accountId]
  apply (nodup.subperm _).length_le
  intro accountId member
  obtain ⟨admission, listed, is, same, within⟩ := admitted accountId member
  rw [List.mem_map]
  exact ⟨admission, List.mem_filter.mpr ⟨listed, by simp [is, within]⟩, same⟩

end AuthSystem

open AuthSystem

/-- With a clock that does not go back: in a span of a window's length a stretch of any run admits at
most two windows' worth of one key's requests, and one more for each restart; accounts that only they
ask for come to no more rows; and a request after a quiet window is admitted. -/
theorem admission_bounds_accounts (config : LoginConfig) (binding : OpaqueBinding)
    (registration : RegistrationBinding) (actions further : List AuthAction)
    (system final : AuthSystem)
    (ran : run (AuthSystem.step config binding registration) AuthSystem.initial actions = some system)
    (went : run (AuthSystem.step config binding registration) system further = some final)
    (ordered : (admissions config binding registration .initial (actions ++ further)).Pairwise
      fun first second => first.now ≤ second.now) :
    (∀ key start, admittedIn key start config.admissionWindow
        (admissions config binding registration system further) ≤
      (restarts further + 2) * config.admissionMax) ∧
    (∀ key start (accounts : List Id), accounts.Nodup →
      (∀ accountId ∈ accounts, HasRow final.logins.server final.registerLimits accountId ∧
        ¬ system.Knows accountId ∧
        ∀ admission ∈ admissions config binding registration system further,
          admission.accountId = accountId → admission.Within key start config.admissionWindow) →
      accounts.length ≤ (restarts further + 2) * config.admissionMax) ∧
    ∀ before admission after,
      admissions config binding registration .initial (actions ++ further) =
        before ++ admission :: after →
      (∀ earlier ∈ before, earlier.key = admission.key →
        earlier.now + config.admissionWindow ≤ admission.now) →
      1 ≤ config.admissionMax → admission.admitted = true := by
  have whole := dated_run (run_append _ _ _ ▸ Option.bind_eq_some_iff.mpr ⟨system, ran, went⟩)
  have dated := dated_run ran
  rw [admissions, observed_append ran] at ordered
  obtain ⟨-, orderedFurther, across⟩ := List.pairwise_append.mp ordered
  have bounded (key : String) (start : Nat) : admittedIn key start config.admissionWindow
      (admissions config binding registration system further) ≤
        (restarts further + 2) * config.admissionMax := by
    cases shown : admissions config binding registration system further with
    | nil => exact Nat.zero_le _
    | cons first rest =>
        have member : first ∈ admissions config binding registration system further := by
          rw [shown]
          exact List.mem_cons_self
        have recent := dated.recent key fun earlier there => across earlier there first member
        have spent := @FixedWindow.spent_initial config.admissionWindow config.admissionMax start
          first.now (system.logins.server.buckets.counter key) recent
        have bound := admitted_run spent went ?_ orderedFurther
        · rw [shown] at bound
          simpa using bound
        · intro admission there
          rw [admissions] at shown
          rw [shown] at orderedFurther
          rw [admissions, shown] at there
          rcases List.mem_cons.mp there with rfl | later
          · exact Nat.le_refl _
          · exact (List.pairwise_cons.mp orderedFurther).1 admission later
  refine ⟨bounded, ?_, whole.quiet⟩
  intro key start accounts nodup new
  refine Nat.le_trans (accounts_le_admitted nodup ?_) (bounded key start)
  intro accountId member
  obtain ⟨row, unknown, within⟩ := new accountId member
  rcases knows_run went accountId (.inl row) with known | ⟨admission, there, is, same⟩
  · exact absurd known unknown
  · exact ⟨admission, there, is, same, within admission there same⟩

section Sample

def probe (accountId : Id) : RegisterRequest :=
  ⟨"::1", .fields (some accountId) (some (encodeB64 (List.replicate 32 0)))⟩

def floodOf (arrivals : List (Id × Nat)) : List AuthAction :=
  arrivals.zipIdx.map (fun ((accountId, now), id) => .arriveRegister id (probe accountId) now) ++
    arrivals.zipIdx.flatMap fun (_, id) => List.replicate 3 (.advanceRegister id (calm 60000))

def flood : List AuthAction :=
  floodOf [("a", 0), ("b", 59999), ("c", 59999), ("d", 60000), ("e", 60000)]

def twoAtATime : LoginConfig := { sampleConfig .node with admissionMax := 2 }

theorem not_knows_initial (accountId : Id) : ¬ AuthSystem.initial.Knows accountId := by
  rintro ((row | row | row | row) | ⟨_, _, _, found, -⟩ | ⟨_, _, _, found, -⟩)
  · cases row
  · cases row
  · exact row rfl
  · exact row rfl
  · cases found
  · cases found

theorem admission_bounds_accounts_flood :
    ∃ final,
      run (AuthSystem.step twoAtATime sampleBinding sampleRegistration) AuthSystem.initial flood
        = some final ∧
      ["a", "b", "c", "d", "e"].filter (fun accountId =>
        (final.logins.server.accounts accountId).isSome) = ["a", "b", "d", "e"] ∧
      ["b", "d", "e"].length ≤ (restarts flood + 2) * 2 := by
  have ran : run (AuthSystem.step twoAtATime sampleBinding sampleRegistration)
      AuthSystem.initial flood = some _ := run_reached (by decide +kernel)
  refine ⟨_, ran, by decide +kernel, ?_⟩
  refine (admission_bounds_accounts _ _ _ [] _ _ _ rfl ran (by decide +kernel)).2.1 "::1" 59999
    ["b", "d", "e"] (by decide) ?_
  intro accountId member
  refine ⟨.inl ?_, not_knows_initial accountId, ?_⟩
  · revert accountId member
    decide +kernel
  · rintro admission there rfl
    revert admission
    decide +kernel

end Sample

end ZenPass.Auth
