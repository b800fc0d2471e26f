import ZenPass.Android.LockWins
import ZenPass.Extension.VaultManager
import ZenPass.Lib.Transition

set_option autoImplicit false

-- One unlock from its call to its result, with everything that the server, the crypto and the
-- network may do at each of its awaits. Its client is a new object, whose token the vault manager
-- reaches only once the state is installed.

namespace ZenPass.Extension

open Client KeyedStore Sdk Transition

def UnlockStage.timed : UnlockStage → Bool
  | .creatingOpaque | .creatingBackend _ _ => false
  | _ => true

/-- `clientToken` is the token of the client, `loginPending` says that the login has been given up
at its deadline and has not come to its end. -/
structure UnlockRun where
  vault : VaultManager
  stage : VaultStage
  clientToken : Option String := none
  loginPending : Bool := false

inductive UnlockEvent where
  | answer (now : Nat) (answer : VaultAnswer)
  | deadline (now : Nat)
  | lateLogin (session : ApiSession)

namespace UnlockEvent

def logsIn : UnlockEvent → Bool
  | .answer _ (.session _) | .lateLogin _ => true
  | _ => false

def opens : UnlockEvent → Bool
  | .answer _ (.backend (some _)) => true
  | _ => false

end UnlockEvent

namespace UnlockRun

def start (confirmApiOrigin : String → Option String) (vault : VaultManager)
    (accountId apiOrigin : String) : UnlockRun where
  vault := (vault.unlock confirmApiOrigin accountId apiOrigin).vault
  stage := (vault.unlock confirmApiOrigin accountId apiOrigin).stage

def tokenAfter (run : UnlockRun) : VaultAnswer → Option String
  | .session session => some session.accessToken
  | _ => run.clientToken

def step (run : UnlockRun) : UnlockEvent → Option UnlockRun
  | .answer now answer =>
      match run.stage with
      | .unlocking accountId stage =>
          (run.vault.resumeUnlock now accountId stage answer).map fun progress =>
            { run with
              vault := progress.vault
              stage := progress.stage
              clientToken := run.tokenAfter answer }
      | _ => none
  | .deadline now =>
      match run.stage with
      | .unlocking accountId stage =>
          if stage.timed then
            (run.vault.resumeUnlock now accountId stage .failed).map fun progress =>
              { run with
                vault := progress.vault
                stage := progress.stage
                loginPending := stage matches .loggingIn }
          else none
      | _ => none
  | .lateLogin session =>
      -- The request goes on after its deadline.
      if run.loginPending then
        some { run with clientToken := some session.accessToken, loginPending := false }
      else none

structure LeftNothing (before : VaultManager) (run : UnlockRun) : Prop where
  locked : run.vault.state = none
  closed : run.vault.liveHosts = before.dispose.liveHosts
  noToken : run.clientToken = none
  unstamped : run.vault.lastFreshCheckAt = 0
  noRefresh : run.vault.refreshInFlight = none

def Failed (run : UnlockRun) : Prop := run.stage = .returned (.unlocked false)

def BeforeLogin : VaultStage → Prop
  | .unlocking _ .creatingOpaque | .unlocking _ .loggingIn | .returned _ => True
  | _ => False

/-- An unlock under way, or one that has failed, has installed nothing. -/
structure Uninstalled (run : UnlockRun) : Prop where
  locked : run.vault.state = none
  unstamped : run.vault.lastFreshCheckAt = 0
  noRefresh : run.vault.refreshInFlight = none
  early : run.clientToken = none → BeforeLogin run.stage

structure Stepped (run : UnlockRun) (event : UnlockEvent) (next : UnlockRun) : Prop where
  uninstalled : next.Uninstalled
  hosts : ∃ opened, next.vault.liveHosts = opened ++ run.vault.liveHosts ∧
    (opened = [] ↔ event.opens = false)
  token : next.clientToken = none ↔ run.clientToken = none ∧ event.logsIn = false
  -- The key session comes after the login.
  later : run.clientToken = none → event.opens = false

variable {run next final : UnlockRun} {event : UnlockEvent}

theorem dispose_of_locked {vault : VaultManager} (locked : vault.state = none)
    (unstamped : vault.lastFreshCheckAt = 0) (noRefresh : vault.refreshInFlight = none) :
    vault.dispose = vault := by
  unfold VaultManager.dispose
  rw [locked]
  cases vault
  cases locked
  cases unstamped
  cases noRefresh
  rfl

theorem resumeUnlock_effect {vault : VaultManager} {now : Nat} {accountId : Id}
    {stage : UnlockStage} {answer : VaultAnswer} {progress : VaultProgress}
    (disposed : vault.dispose = vault)
    (resumed : vault.resumeUnlock now accountId stage answer = some progress) :
    progress.stage = .returned (.unlocked true) ∨
      ∃ hosts opened, progress.vault =
          { vault with hosts := hosts, liveHosts := opened ++ vault.liveHosts } ∧
        (opened = [] ↔ UnlockEvent.opens (.answer now answer) = false) := by
  have unopened (quiet : UnlockEvent.opens (.answer now answer) = false) :
      ∃ hosts opened, vault = { vault with hosts := hosts, liveHosts := opened ++ vault.liveHosts } ∧
        (opened = [] ↔ UnlockEvent.opens (.answer now answer) = false) :=
    ⟨vault.hosts, [], rfl, fun _ => quiet, fun _ => rfl⟩
  unfold VaultManager.resumeUnlock at resumed
  split at resumed
  · cases resumed
    exact .inr (disposed ▸ unopened rfl)
  · cases resumed
    exact .inr (disposed ▸ unopened rfl)
  · cases resumed
    exact .inr (unopened rfl)
  · cases resumed
    exact .inr (unopened rfl)
  · cases resumed
    exact .inr (unopened rfl)
  · split at resumed <;> cases resumed <;> exact .inr (unopened rfl)
  · cases resumed
    exact .inr (unopened rfl)
  · cases resumed
    exact .inr (unopened rfl)
  · cases resumed
    exact .inr ⟨vault.hosts + 1, [vault.hosts + 1], rfl, nofun, nofun⟩
  · cases resumed
    exact .inl rfl
  · dsimp only at resumed
    split at resumed <;> cases resumed
    · exact .inl rfl
    · exact .inr (unopened rfl)
  · cases resumed

theorem resumeUnlock_early {vault : VaultManager} {now : Nat} {accountId : Id}
    {stage : UnlockStage} {answer : VaultAnswer} {progress : VaultProgress}
    (early : BeforeLogin (.unlocking accountId stage))
    (resumed : vault.resumeUnlock now accountId stage answer = some progress) :
    (UnlockEvent.logsIn (.answer now answer) = false → BeforeLogin progress.stage) ∧
      UnlockEvent.opens (.answer now answer) = false := by
  cases stage with
  | creatingOpaque =>
      cases answer <;> cases resumed
      · exact ⟨fun _ => trivial, rfl⟩
      · exact ⟨fun _ => trivial, rfl⟩
  | loggingIn =>
      cases answer <;> cases resumed
      · exact ⟨nofun, rfl⟩
      · exact ⟨fun _ => trivial, rfl⟩
  | _ => cases early

theorem Uninstalled.afterAnswer (uninstalled : run.Uninstalled) {now : Nat} {accountId : Id}
    {stage : UnlockStage} {answer : VaultAnswer} {progress : VaultProgress} {pending : Bool}
    (here : run.stage = .unlocking accountId stage)
    (resumed : run.vault.resumeUnlock now accountId stage answer = some progress) :
    progress.stage = .returned (.unlocked true) ∨
      run.Stepped (.answer now answer)
        { vault := progress.vault
          stage := progress.stage
          clientToken := run.tokenAfter answer
          loginPending := pending } := by
  have disposed := dispose_of_locked uninstalled.locked uninstalled.unstamped uninstalled.noRefresh
  have token : run.tokenAfter answer = none ↔
      run.clientToken = none ∧ UnlockEvent.logsIn (.answer now answer) = false := by
    cases answer <;> simp [tokenAfter, UnlockEvent.logsIn]
  have early := uninstalled.early
  rw [here] at early
  obtain done | ⟨hosts, opened, is, none⟩ := resumeUnlock_effect disposed resumed
  · exact .inl done
  · refine .inr ⟨⟨?_, ?_, ?_, ?_⟩, ⟨opened, by rw [is], none⟩, token, ?_⟩
    · exact is ▸ uninstalled.locked
    · exact is ▸ uninstalled.unstamped
    · exact is ▸ uninstalled.noRefresh
    · intro nothing
      obtain ⟨before, refused⟩ := token.mp nothing
      exact (resumeUnlock_early (early before) resumed).1 refused
    · exact fun before => (resumeUnlock_early (early before) resumed).2

theorem Uninstalled.afterEvent (uninstalled : run.Uninstalled) (stepped : run.step event = some next) :
    next.stage = .returned (.unlocked true) ∨ run.Stepped event next := by
  cases event with
  | answer now answer =>
      simp only [UnlockRun.step] at stepped
      split at stepped
      · rename_i accountId stage here
        rw [Option.map_eq_some_iff] at stepped
        obtain ⟨progress, resumed, rfl⟩ := stepped
        exact uninstalled.afterAnswer here resumed
      · cases stepped
  | deadline now =>
      simp only [UnlockRun.step] at stepped
      split at stepped
      · rename_i accountId stage here
        split at stepped
        · rw [Option.map_eq_some_iff] at stepped
          obtain ⟨progress, resumed, rfl⟩ := stepped
          -- A deadline is a failure that the request may still outlive.
          obtain done | failed := uninstalled.afterAnswer here resumed
          · exact .inl done
          · exact .inr ⟨failed.uninstalled, failed.hosts, failed.token, failed.later⟩
        · cases stepped
      · cases stepped
  | lateLogin session =>
      simp only [UnlockRun.step] at stepped
      split at stepped
      · cases stepped
        refine .inr ⟨⟨?_, ?_, ?_, nofun⟩, ⟨[], rfl, fun _ => rfl, fun _ => rfl⟩, ?_, fun _ => rfl⟩
        · exact uninstalled.locked
        · exact uninstalled.unstamped
        · exact uninstalled.noRefresh
        · simp [UnlockEvent.logsIn]
      · cases stepped

theorem not_failed_of_unlocked {events : List UnlockEvent}
    (unlocked : run.stage = .returned (.unlocked true))
    (ran : Transition.run step run events = some final) : ¬ final.Failed := by
  have stays (run : UnlockRun) (event : UnlockEvent) (next : UnlockRun)
      (unlocked : run.stage = .returned (.unlocked true)) (stepped : run.step event = some next) :
      next.stage = .returned (.unlocked true) := by
    cases event <;> simp only [UnlockRun.step, unlocked] at stepped
    · cases stepped
    · cases stepped
    · split at stepped <;> cases stepped
      rfl
  unfold Failed
  rw [run_preserves stays unlocked ran]
  rintro ⟨⟩

theorem Uninstalled.of_run (uninstalled : run.Uninstalled) {events : List UnlockEvent}
    (ran : Transition.run step run events = some final) (failed : final.Failed) :
    final.Uninstalled ∧
      (∃ opened, final.vault.liveHosts = opened ++ run.vault.liveHosts ∧
        (opened = [] ↔ ∀ event ∈ events, event.opens = false)) ∧
      (final.clientToken = none ↔
        run.clientToken = none ∧ ∀ event ∈ events, event.logsIn = false) ∧
      (final.clientToken = none → ∀ event ∈ events, event.opens = false) := by
  induction events generalizing run with
  | nil =>
      cases ran
      exact ⟨uninstalled, ⟨[], rfl, by simp⟩, by simp, by simp⟩
  | cons event rest ih =>
      rw [run_cons, Option.bind_eq_some_iff] at ran
      obtain ⟨next, stepped, ran⟩ := ran
      obtain unlocked | here := uninstalled.afterEvent stepped
      · exact absurd failed (not_failed_of_unlocked unlocked ran)
      · obtain ⟨last, ⟨opened, later, none⟩, token, order⟩ := ih here.uninstalled ran
        obtain ⟨first, hosts, nothing⟩ := here.hosts
        refine ⟨last, ⟨opened ++ first, ?_, ?_⟩, ?_, fun noToken => ?_⟩
        · rw [later, hosts, List.append_assoc]
        · rw [List.append_eq_nil_iff, none, nothing, List.forall_mem_cons, and_comm]
        · rw [token, here.token, List.forall_mem_cons, and_assoc]
        · have before := (here.token.mp (token.mp noToken).1).1
          exact List.forall_mem_cons.mpr ⟨here.later before, order noToken⟩

theorem uninstalled_start (confirmApiOrigin : String → Option String) (vault : VaultManager)
    (accountId apiOrigin : String) :
    (start confirmApiOrigin vault accountId apiOrigin).Uninstalled := by
  refine ⟨rfl, rfl, rfl, fun _ => ?_⟩
  simp only [start, VaultManager.unlock]
  split <;> trivial

/-- A failed unlock leaves its key session open exactly if it has opened one, and its token in the
client exactly if the server has accepted the login. -/
theorem failed_unlock (confirmApiOrigin : String → Option String) (vault : VaultManager)
    (accountId apiOrigin : String) {events : List UnlockEvent}
    (ran : Transition.run step (start confirmApiOrigin vault accountId apiOrigin) events =
      some final) (failed : final.Failed) :
    (final.LeftNothing vault ↔ ∀ event ∈ events, event.logsIn = false) ∧
      final.vault.state = none ∧
      (final.vault.liveHosts = vault.dispose.liveHosts ↔ ∀ event ∈ events, event.opens = false) := by
  obtain ⟨last, ⟨opened, hosts, none⟩, token, order⟩ :=
    (uninstalled_start confirmApiOrigin vault accountId apiOrigin).of_run ran failed
  have closed : final.vault.liveHosts = vault.dispose.liveHosts ↔
      ∀ event ∈ events, event.opens = false := by
    change final.vault.liveHosts = opened ++ vault.dispose.liveHosts at hosts
    rw [hosts, List.append_left_eq_self, none]
  refine ⟨⟨fun left => (token.mp left.noToken).2, fun refused => ?_⟩, last.locked, closed⟩
  have noToken := token.mpr ⟨rfl, refused⟩
  exact ⟨last.locked, closed.mpr (order noToken), noToken, last.unstamped, last.noRefresh⟩

end UnlockRun

end ZenPass.Extension

namespace ZenPass.Android

open Client KeyedStore Sdk Transition

/-- `clientToken` is the token of the client that the unlock of the thread has made. -/
structure UnlockRun where
  vault : VaultManager
  clientToken : Option String := none

structure UnlockEvent where
  now : Nat
  answer : Answer

namespace UnlockEvent

def logsIn (event : UnlockEvent) : Bool := event.answer matches .session _

def opens (event : UnlockEvent) : Bool := event.answer matches .opened

end UnlockEvent

namespace UnlockRun

section Steps

variable (confirmApiOrigin : String → Option String) (sealPayload : SealRequest → Option Wire.Bytes)
  (t : Nat)

def start (vault : VaultManager) (accountId apiOrigin : String) : UnlockRun where
  vault := vault.proceed t (vault.call (.unlock accountId apiOrigin))

def tokenAfter (run : UnlockRun) : Answer → Option String
  | .session session => some session.accessToken
  | _ => run.clientToken

def step (run : UnlockRun) (event : UnlockEvent) : Option UnlockRun :=
  (run.vault.step confirmApiOrigin sealPayload (.resume t event.now event.answer)).map fun vault =>
    { vault, clientToken := run.tokenAfter event.answer }

end Steps

def closedOf (held : Option UnlockedState) (openSessions : List Nat) : List Nat :=
  match held with
  | none => openSessions
  | some state => openSessions.filter fun session => session ≠ state.session

structure LeftNothing (before : VaultManager) (run : UnlockRun) : Prop where
  locked : run.vault.state = none
  closed : run.vault.openSessions = closedOf before.state before.openSessions
  noToken : run.clientToken = none
  unstamped : run.vault.lastFreshCheckAt = 0

def Failed (t : Nat) (run : UnlockRun) : Prop :=
  run.vault.tasks t = none ∧ run.vault.results.getLast? = some (t, .unlocked false)

def Empty (vault : VaultManager) : Prop := vault.state = none ∧ vault.lastFreshCheckAt = 0

def Fits (vault : VaultManager) : Option Stage → Prop
  | none => Empty vault
  | some (.disposing (.clearing _) (.unlock _ _)) => True
  | some (.disposing (.forgetting _) (.unlock _ _)) => vault.state = none
  | some (.disposing _ _) => Empty vault
  | some (.unlocking _ stage) => stage ≠ .stamping ∧ Empty vault
  | some _ => False

def left (vault : VaultManager) : Option Stage → List Nat
  | some (.disposing (.clearing held) _) | some (.disposing (.forgetting held) _) =>
      closedOf held vault.openSessions
  | some (.disposing (.closing held) _) => closedOf (some held) vault.openSessions
  | _ => vault.openSessions

def BeforeLogin : Option Stage → Prop
  | none | some (.disposing _ _) | some (.unlocking _ .loggingIn)
  | some (.unlocking _ .finishingLogin) => True
  | _ => False

structure Stepped (t : Nat) (run : UnlockRun) (event : UnlockEvent) (next : UnlockRun) : Prop where
  fits : Fits next.vault (next.vault.tasks t)
  sessions : ∃ opened, left next.vault (next.vault.tasks t) =
      opened ++ left run.vault (run.vault.tasks t) ∧ (opened = [] ↔ event.opens = false)
  early : BeforeLogin (run.vault.tasks t) →
    (event.logsIn = false → BeforeLogin (next.vault.tasks t)) ∧ event.opens = false

variable {confirmApiOrigin : String → Option String} {sealPayload : SealRequest → Option Wire.Bytes}
  {t : Nat} {run next final : UnlockRun} {event : UnlockEvent} {vault changed : VaultManager}

theorem tasks_proceed (progress : Progress) :
    (changed.proceed t progress).tasks t = progress.stage := by
  cases progress <;> exact Function.update_self _ _ _

theorem fits_proceed (progress : Progress) (stage : Option Stage) :
    Fits (changed.proceed t progress) stage ↔ Fits changed stage := by
  cases progress <;> exact Iff.rfl

theorem left_proceed (progress : Progress) (stage : Option Stage) :
    left (changed.proceed t progress) stage = left changed stage := by
  cases progress <;> rfl

inductive Effect (t : Nat) (vault : VaultManager) (old : Option Stage) (event : UnlockEvent) :
    VaultManager → Prop where
  | installed (changed : VaultManager) (accountId : String) :
      Effect t vault old event (changed.proceed t (.goesOn (.unlocking accountId .stamping)))
  | goesOn (changed : VaultManager) (progress : Progress) (fits : Fits changed progress.stage)
      (opened : List Nat) (sessions : left changed progress.stage = opened ++ left vault old)
      (none : opened = [] ↔ event.opens = false)
      (early : BeforeLogin old → (event.logsIn = false → BeforeLogin progress.stage) ∧
        event.opens = false) : Effect t vault old event (changed.proceed t progress)

theorem fits_afterDispose (empty : Empty changed) (accountId apiOrigin : String) :
    Fits changed (VaultManager.afterDispose confirmApiOrigin (.unlock accountId apiOrigin)).stage ∧
      left changed (VaultManager.afterDispose confirmApiOrigin (.unlock accountId apiOrigin)).stage =
        changed.openSessions ∧
      BeforeLogin (VaultManager.afterDispose confirmApiOrigin (.unlock accountId apiOrigin)).stage := by
  unfold VaultManager.afterDispose
  dsimp only
  split
  · exact ⟨empty, rfl, trivial⟩
  · exact ⟨⟨nofun, empty⟩, rfl, trivial⟩

theorem dispose_effect {stage : DisposeStage} {after : AfterDispose}
    (fits : Fits vault (some (.disposing stage after))) (quiet : event.opens = false) :
    Effect t vault (some (.disposing stage after)) event
      (vault.resumeDispose confirmApiOrigin t after stage) := by
  have keeps (changed : VaultManager) (progress : Progress) (fits : Fits changed progress.stage)
      (same : left changed progress.stage = left vault (some (.disposing stage after)))
      (early : BeforeLogin progress.stage) :
      Effect t vault (some (.disposing stage after)) event (changed.proceed t progress) :=
    .goesOn changed progress fits [] same ⟨fun _ => quiet, fun _ => rfl⟩ fun _ =>
      ⟨fun _ => early, quiet⟩
  have next (changed : VaultManager) (new : DisposeStage)
      (fits : Fits changed (some (.disposing new after)))
      (same : left changed (some (.disposing new after)) =
        left vault (some (.disposing stage after))) :
      Effect t vault (some (.disposing stage after)) event
        (changed.proceed t (.goesOn (.disposing new after))) :=
    keeps changed (.goesOn (.disposing new after)) fits same trivial
  -- What follows the dispose of an unlock that has failed is its return.
  have through (changed : VaultManager) (empty : Empty changed)
      (same : changed.openSessions = left vault (some (.disposing stage after))) :
      Effect t vault (some (.disposing stage after)) event
        (changed.proceed t (VaultManager.afterDispose confirmApiOrigin after)) := by
    cases after with
    | returns result => exact keeps changed (.returns result) empty same trivial
    | unlock accountId apiOrigin =>
        obtain ⟨fits, sessions, early⟩ :=
          @fits_afterDispose confirmApiOrigin changed empty accountId apiOrigin
        exact keeps changed _ fits (sessions.trans same) early
  cases stage with
  | reading =>
      have empty : Empty vault := by cases after <;> exact fits
      refine next vault (.clearing vault.state) ?_ ?_
      · cases after with
        | returns => exact empty
        | unlock => trivial
      · rw [empty.1]
        rfl
  | clearing held =>
      refine next { vault with state := none } (.forgetting held) ?_ rfl
      cases after with
      | returns => exact ⟨rfl, fits.2⟩
      | unlock => exact rfl
  | forgetting held =>
      have locked : vault.state = none := by
        cases after with
        | returns => exact fits.1
        | unlock => exact fits
      cases held with
      | none => exact through { vault with lastFreshCheckAt := 0 } ⟨locked, rfl⟩ rfl
      | some held =>
          refine next { vault with lastFreshCheckAt := 0 } (.closing held) ?_ rfl
          cases after <;> exact ⟨locked, rfl⟩
  | closing held =>
      refine next _ (.clearingToken held) ?_ rfl
      cases after <;> exact fits
  | clearingToken held =>
      refine through _ ?_ rfl
      cases after <;> exact fits

theorem unlock_effect {accountId : String} {stage : UnlockStage} {next : VaultManager}
    (fits : Fits vault (some (.unlocking accountId stage)))
    (resumed : vault.resumeUnlock t event.now accountId stage event.answer = some next) :
    Effect t vault (some (.unlocking accountId stage)) event next := by
  obtain ⟨unstamped, empty⟩ := fits
  have keeps (progress : Progress) (fits : Fits vault progress.stage)
      (same : left vault progress.stage = vault.openSessions) (quiet : event.opens = false)
      (early : BeforeLogin (some (.unlocking accountId stage)) → event.logsIn = false →
        BeforeLogin progress.stage) :
      Effect t vault (some (.unlocking accountId stage)) event (vault.proceed t progress) :=
    .goesOn vault progress fits [] same ⟨fun _ => quiet, fun _ => rfl⟩ fun before =>
      ⟨early before, quiet⟩
  obtain ⟨now, answer⟩ := event
  dsimp only at resumed
  unfold VaultManager.resumeUnlock at resumed
  split at resumed <;> cases resumed
  · exact .installed _ _
  · exact absurd rfl unstamped
  · exact keeps _ empty rfl rfl fun _ _ => trivial
  · exact keeps _ empty rfl rfl fun _ _ => trivial
  · exact keeps _ ⟨nofun, empty⟩ rfl rfl fun _ _ => trivial
  · exact keeps _ ⟨nofun, empty⟩ rfl rfl nofun
  · exact keeps _ empty rfl rfl fun _ _ => trivial
  · exact keeps _ empty rfl rfl fun _ _ => trivial
  · exact keeps _ empty rfl rfl fun _ _ => trivial
  · exact keeps _ ⟨nofun, empty⟩ rfl rfl nofun
  · split
    · exact keeps _ empty rfl rfl nofun
    · exact keeps _ ⟨nofun, empty⟩ rfl rfl nofun
  · exact keeps _ empty rfl rfl nofun
  · exact .goesOn _ _ ⟨nofun, empty⟩ [vault.sessions + 1] rfl ⟨nofun, nofun⟩ nofun
  · exact keeps _ ⟨nofun, empty⟩ rfl rfl nofun
  · split
    · exact keeps _ ⟨nofun, empty⟩ rfl rfl nofun
    · exact keeps _ ⟨nofun, empty⟩ rfl rfl nofun

theorem step_effect (fits : Fits run.vault (run.vault.tasks t))
    (stepped : run.step confirmApiOrigin sealPayload t event = some next) :
    (∃ accountId, next.vault.tasks t = some (.unlocking accountId .stamping)) ∨
      Stepped t run event next := by
  unfold step at stepped
  rw [Option.map_eq_some_iff] at stepped
  obtain ⟨after, resumed, rfl⟩ := stepped
  simp only [VaultManager.step, Option.bind_eq_some_iff] at resumed
  obtain ⟨stage, here, resumed⟩ := resumed
  rw [here] at fits
  have effect : Effect t run.vault (some stage) event after := by
    unfold VaultManager.resume at resumed
    split at resumed
    · rename_i stage after done
      cases resumed
      exact dispose_effect fits (by rw [UnlockEvent.opens, done])
    · cases resumed
    · exact unlock_effect fits resumed
    all_goals cases fits
  cases effect with
  | installed changed accountId =>
      exact .inl ⟨accountId, tasks_proceed (.goesOn (.unlocking accountId .stamping))⟩
  | goesOn changed progress fits opened sessions none early =>
      refine .inr ⟨?_, ⟨opened, ?_, none⟩, ?_⟩
      · rw [tasks_proceed, fits_proceed]
        exact fits
      · rw [tasks_proceed, left_proceed, here]
        exact sessions
      · rw [tasks_proceed, here]
        exact early

theorem token_step (stepped : run.step confirmApiOrigin sealPayload t event = some next) :
    next.clientToken = none ↔ run.clientToken = none ∧ event.logsIn = false := by
  unfold step at stepped
  rw [Option.map_eq_some_iff] at stepped
  obtain ⟨_, -, rfl⟩ := stepped
  obtain ⟨now, answer⟩ := event
  cases answer <;> simp [tokenAfter, UnlockEvent.logsIn]

theorem not_failed_of_stamping {accountId : String} {events : List UnlockEvent}
    (stamping : run.vault.tasks t = some (.unlocking accountId .stamping))
    (ran : Transition.run (step confirmApiOrigin sealPayload t) run events = some final) :
    ¬ final.Failed t := by
  rintro ⟨idle, last⟩
  cases events with
  | nil =>
      cases ran
      rw [stamping] at idle
      cases idle
  | cons event rest =>
      rw [run_cons, Option.bind_eq_some_iff] at ran
      obtain ⟨next, stepped, ran⟩ := ran
      unfold step at stepped
      rw [Option.map_eq_some_iff] at stepped
      obtain ⟨after, resumed, rfl⟩ := stepped
      simp only [VaultManager.step, stamping, Option.bind_some, VaultManager.resume] at resumed
      obtain ⟨now, answer⟩ := event
      cases answer <;> cases resumed
      cases rest with
      | nil =>
          cases ran
          simp [VaultManager.proceed] at last
      | cons event rest =>
          rw [run_cons, Option.bind_eq_some_iff] at ran
          obtain ⟨next, stepped, ran⟩ := ran
          simp [step, VaultManager.step, VaultManager.proceed] at stepped

theorem failed_of_run {events : List UnlockEvent} (fits : Fits run.vault (run.vault.tasks t))
    (early : run.clientToken = none → BeforeLogin (run.vault.tasks t))
    (ran : Transition.run (step confirmApiOrigin sealPayload t) run events = some final)
    (failed : final.Failed t) :
    Empty final.vault ∧
      (∃ opened, final.vault.openSessions = opened ++ left run.vault (run.vault.tasks t) ∧
        (opened = [] ↔ ∀ event ∈ events, event.opens = false)) ∧
      (final.clientToken = none ↔
        run.clientToken = none ∧ ∀ event ∈ events, event.logsIn = false) ∧
      (final.clientToken = none → ∀ event ∈ events, event.opens = false) := by
  induction events generalizing run with
  | nil =>
      cases ran
      rw [failed.1] at fits ⊢
      exact ⟨fits, ⟨[], rfl, by simp⟩, by simp, by simp⟩
  | cons event rest ih =>
      rw [run_cons, Option.bind_eq_some_iff] at ran
      obtain ⟨next, stepped, ran⟩ := ran
      have token := token_step stepped
      obtain ⟨accountId, stamping⟩ | here := step_effect fits stepped
      · exact absurd failed (not_failed_of_stamping stamping ran)
      · have later : next.clientToken = none → BeforeLogin (next.vault.tasks t) := by
          intro noToken
          obtain ⟨before, refused⟩ := token.mp noToken
          exact (here.early (early before)).1 refused
        obtain ⟨empty, ⟨opened, sessions, none⟩, tokens, order⟩ := ih here.fits later ran
        obtain ⟨first, before, nothing⟩ := here.sessions
        refine ⟨empty, ⟨opened ++ first, ?_, ?_⟩, ?_, fun noToken => ?_⟩
        · rw [sessions, before, List.append_assoc]
        · rw [List.append_eq_nil_iff, none, nothing, List.forall_mem_cons, and_comm]
        · rw [tokens, token, List.forall_mem_cons, and_assoc]
        · have before := (token.mp (tokens.mp noToken).1).1
          exact List.forall_mem_cons.mpr ⟨(here.early (early before)).2, order noToken⟩

theorem failed_unlock (vault : VaultManager) (accountId apiOrigin : String)
    {events : List UnlockEvent}
    (ran : Transition.run (step confirmApiOrigin sealPayload t) (start t vault accountId apiOrigin)
      events = some final) (failed : final.Failed t) :
    (final.LeftNothing vault ↔ ∀ event ∈ events, event.logsIn = false) ∧
      final.vault.state = none ∧
      (final.vault.openSessions = closedOf vault.state vault.openSessions ↔
        ∀ event ∈ events, event.opens = false) := by
  have began : (start t vault accountId apiOrigin).vault.tasks t =
      some (.disposing (.clearing vault.state) (.unlock accountId apiOrigin)) :=
    tasks_proceed (vault.call (.unlock accountId apiOrigin))
  have fits : Fits (start t vault accountId apiOrigin).vault
      ((start t vault accountId apiOrigin).vault.tasks t) := by
    rw [began]
    trivial
  have early : (start t vault accountId apiOrigin).clientToken = none →
      BeforeLogin ((start t vault accountId apiOrigin).vault.tasks t) := by
    rw [began]
    exact fun _ => trivial
  obtain ⟨empty, ⟨opened, sessions, none⟩, token, order⟩ := failed_of_run fits early ran failed
  rw [began] at sessions
  have closed : final.vault.openSessions = closedOf vault.state vault.openSessions ↔
      ∀ event ∈ events, event.opens = false := by
    change final.vault.openSessions = opened ++ closedOf vault.state vault.openSessions at sessions
    rw [sessions, List.append_left_eq_self, none]
  refine ⟨⟨fun left => (token.mp left.noToken).2, fun refused => ?_⟩, empty.1, closed⟩
  have noToken := token.mpr ⟨rfl, refused⟩
  exact ⟨empty.1, closed.mpr (order noToken), noToken, empty.2⟩

end UnlockRun

end ZenPass.Android

namespace ZenPass.Client

open Transition

section LeavesNothing

variable (confirmApiOrigin : String → Option String) (sealPayload : SealRequest → Option Wire.Bytes)
  (accountId apiOrigin : String)

/-- In both clients a failed unlock leaves nothing behind exactly if the server has not accepted its
login. It always leaves the manager locked, and its key session open exactly if it has opened one. -/
theorem failed_unlock_leaves_nothing_iff :
    (∀ (vault : Extension.VaultManager) (events : List Extension.UnlockEvent)
        (final : Extension.UnlockRun),
      run Extension.UnlockRun.step (.start confirmApiOrigin vault accountId apiOrigin) events =
        some final → final.Failed →
      (final.LeftNothing vault ↔ ∀ event ∈ events, event.logsIn = false) ∧
        final.vault.state = none ∧
        (final.vault.liveHosts = vault.dispose.liveHosts ↔
          ∀ event ∈ events, event.opens = false)) ∧
    (∀ (t : Nat) (vault : Android.VaultManager) (events : List Android.UnlockEvent)
        (final : Android.UnlockRun),
      run (Android.UnlockRun.step confirmApiOrigin sealPayload t)
        (.start t vault accountId apiOrigin) events = some final → final.Failed t →
      (final.LeftNothing vault ↔ ∀ event ∈ events, event.logsIn = false) ∧
        final.vault.state = none ∧
        (final.vault.openSessions =
            Android.UnlockRun.closedOf vault.state vault.openSessions ↔
          ∀ event ∈ events, event.opens = false)) :=
  ⟨fun vault _ _ ran failed =>
      Extension.UnlockRun.failed_unlock confirmApiOrigin vault accountId apiOrigin ran failed,
    fun _ vault _ _ ran failed =>
      Android.UnlockRun.failed_unlock vault accountId apiOrigin ran failed⟩

end LeavesNothing

section Samples

def extensionStart : Extension.UnlockRun := .start some {} "account" "https://api.test"

def androidStart : Android.UnlockRun := .start 1 {} "account" "https://api.test"

def androidStep : Android.UnlockRun → Android.UnlockEvent → Option Android.UnlockRun :=
  Android.UnlockRun.step some (fun _ => none) 1

def extensionTimesOut : List Extension.UnlockEvent := [.answer 0 .done, .deadline 5000]

def androidTimesOut : List Android.UnlockEvent :=
  [⟨0, .done⟩, ⟨0, .done⟩, ⟨5000, .failed⟩, ⟨5000, .done⟩, ⟨5000, .done⟩, ⟨5000, .done⟩]

def extensionLoadFails : List Extension.UnlockEvent :=
  [.answer 0 .done, .answer 0 (.session ⟨"token", none⟩), .answer 0 .done,
    .answer 0 (.keyBundle (some (some ⟨"account", "vault"⟩))), .answer 0 (.backend (some 7)),
    .deadline 5000]

def androidLoadFails : List Android.UnlockEvent :=
  [⟨0, .done⟩, ⟨0, .done⟩, ⟨0, .message⟩, ⟨0, .session ⟨"token", none⟩⟩, ⟨0, .done⟩,
    ⟨0, .keyBundle (some (some ⟨"account", "vault"⟩))⟩, ⟨0, .opened⟩, ⟨5000, .failed⟩,
    ⟨5000, .done⟩, ⟨5000, .done⟩, ⟨5000, .done⟩]

theorem failed_unlock_leaves_nothing_timeout :
    (reached Extension.UnlockRun.step extensionStart extensionTimesOut).LeftNothing {} ∧
      (reached androidStep androidStart androidTimesOut).LeftNothing {} := by
  obtain ⟨extension, android⟩ := failed_unlock_leaves_nothing_iff some (fun _ => none) "account"
    "https://api.test"
  constructor
  · exact (extension {} extensionTimesOut _ (run_reached (by decide +kernel))
      (by rfl)).1.mpr (by decide)
  · exact (android 1 {} androidTimesOut _ (run_reached (by decide +kernel))
      ⟨by decide +kernel, by decide +kernel⟩).1.mpr (by decide)

/-- In both clients an unlock that fails while it loads the items leaves its key session open and
its token in the client. -/
theorem failed_load_leaves_session :
    (¬ ∀ (vault : Extension.VaultManager) (events : List Extension.UnlockEvent)
        (final : Extension.UnlockRun),
      run Extension.UnlockRun.step (.start some vault "account" "https://api.test") events =
        some final → final.Failed → final.LeftNothing vault) ∧
    (¬ ∀ (vault : Android.VaultManager) (events : List Android.UnlockEvent)
        (final : Android.UnlockRun),
      run androidStep (.start 1 vault "account" "https://api.test") events = some final →
        final.Failed 1 → final.LeftNothing vault) := by
  constructor
  · intro always
    have closed := (always {} extensionLoadFails
      (reached Extension.UnlockRun.step extensionStart extensionLoadFails)
      (run_reached (by decide +kernel)) (by rfl)).closed
    have open_ : (reached Extension.UnlockRun.step extensionStart
        extensionLoadFails).vault.liveHosts = [1] := by decide +kernel
    rw [open_] at closed
    cases closed
  · intro always
    have closed := (always {} androidLoadFails
      (reached androidStep androidStart androidLoadFails) (run_reached (by decide +kernel))
      ⟨by decide +kernel, by decide +kernel⟩).closed
    have open_ : (reached androidStep androidStart androidLoadFails).vault.openSessions = [1] := by
      decide +kernel
    rw [open_] at closed
    cases closed

end Samples

end ZenPass.Client
