import ZenPass.Client.Freshness
import ZenPass.Extension.VaultManager
import ZenPass.Lib.Transition

set_option autoImplicit false

namespace ZenPass.Extension

open Client Sdk Transition

inductive VaultCall where
  | unlock (accountId apiOrigin : String)
  | logout
  | checkFresh
  | fieldsFor (itemId pageOrigin : String)
  | getTotp (itemId : String)
  | saveItem (input : SaveItemInput)
deriving DecidableEq, Repr

inductive ManagerAction where
  | lock
  | call (t now : Nat) (call : VaultCall)
  | resume (t now : Nat) (answer : VaultAnswer)

/-- `exchangedAt` is the time of the last successful exchange of each state, an unlock or a device
list. `failedStates` are those whose authentication has been seen to fail. -/
structure ManagerRun where
  vault : VaultManager := {}
  tasks : Nat → Option VaultStage := fun _ => none
  clock : Nat := 0
  exchangedAt : Nat → Option Nat := fun _ => none
  checks : Nat → Option Check := fun _ => none
  failedStates : List Nat := []
  releases : List Release := []

namespace VaultStage

def passing : VaultStage → Option Nat
  | .fresh owner _ (.checked true) => some owner
  | _ => none

def computing : VaultStage → Option Nat
  | .computingFill owner _ | .computingTotp owner => some owner
  | _ => none

def passed (stage : VaultStage) : Option Nat := stage.passing.or stage.computing

def remaining : VaultStage → Option VaultStage
  | .returned _ => none
  | stage => some stage

end VaultStage

def VaultProgress.releases (progress : VaultProgress) : Bool :=
  progress.uploaded.isSome ||
    match progress.stage with
    | .returned (.fields fields) => fields.isSome
    | .returned (.totp totp) => totp.isSome
    | _ => false

def exchangeOf : Option VaultStage → Option VaultAnswer → Option Nat
  | some (.fresh owner _ .listingDevices), some .done => some owner
  | _, _ => none

namespace ManagerRun

def exchangesAfter (run : ManagerRun) (now : Nat) (exchanged : Option Nat)
    (progress : VaultProgress) : Nat → Option Nat :=
  let listed :=
    match exchanged with
    | none => run.exchangedAt
    | some owner => Function.update run.exchangedAt owner (some now)
  if progress.vault.installs = run.vault.installs then listed
  else Function.update listed progress.vault.installs (some now)

def advance (run : ManagerRun) (t now : Nat) (old : Option VaultStage)
    (answer : Option VaultAnswer) (progress : VaultProgress) : ManagerRun :=
  let exchangedAt := run.exchangesAfter now (exchangeOf old answer) progress
  let owner := old.bind VaultStage.passed
  { vault := progress.vault
    tasks := Function.update run.tasks t progress.stage.remaining
    clock := now
    exchangedAt
    checks :=
      match progress.stage.passing with
      | none => run.checks
      | some owner =>
          Function.update run.checks t
            (some ⟨owner, now, progress.vault.holds owner, exchangedAt owner⟩)
    failedStates :=
      if progress.authFailed then
        (run.vault.state.map fun state => state.id).toList ++ run.failedStates
      else run.failedStates
    releases :=
      if progress.releases then
        run.releases ++
          [{ owner
             held := owner.any run.vault.holds
             authFailed := owner.any run.failedStates.contains
             check := run.checks t }]
      else run.releases }

section Steps

variable (parseOrigin : String → Option ParsedOrigin)
  (confirmApiOrigin : String → Option String) (sealPayload : SealRequest → Option Wire.Bytes)

def callProgress (vault : VaultManager) (now : Nat) : VaultCall → VaultProgress
  | .unlock accountId apiOrigin => vault.unlock confirmApiOrigin accountId apiOrigin
  | .logout => vault.logout
  | .checkFresh => vault.checkFresh now
  | .fieldsFor itemId pageOrigin => vault.fieldsFor now itemId pageOrigin
  | .getTotp itemId => vault.getTotp now itemId
  | .saveItem input => vault.saveItem now input

def step (run : ManagerRun) : ManagerAction → Option ManagerRun
  | .lock => some { run with vault := run.vault.lock }
  | .call t now call =>
      if run.clock ≤ now ∧ run.tasks t = none then
        some (run.advance t now none none (callProgress confirmApiOrigin run.vault now call))
      else none
  | .resume t now answer =>
      if run.clock ≤ now then
        (run.tasks t).bind fun stage =>
          (run.vault.resume parseOrigin sealPayload now stage answer).map fun progress =>
            run.advance t now (some stage) (some answer) progress
      else none

end Steps

/-- Every release is fresh, and a state whose authentication has failed is not installed. -/
structure Guarded (run : ManagerRun) : Prop where
  fresh : ∀ release ∈ run.releases, release.Fresh
  locked : ∀ state ∈ run.vault.state, state.id ∉ run.failedStates

end ManagerRun

inductive StateChange (vault : VaultManager) (now : Nat) (exchanged : Option Nat)
    (next : VaultManager) : Prop where
  | locked (installs : next.installs = vault.installs) (stamp : next.lastFreshCheckAt = 0)
      (nothing : next.state = none)
  | kept (installs : next.installs = vault.installs)
      (stamp : next.lastFreshCheckAt = vault.lastFreshCheckAt)
      (same : next.state.map (fun state => state.id) = vault.state.map fun state => state.id)
  | stamped (owner : Nat) (is : exchanged = some owner) (held : vault.holds owner = true)
      (installs : next.installs = vault.installs) (stamp : next.lastFreshCheckAt = now)
      (same : next.state.map (fun state => state.id) = vault.state.map fun state => state.id)
  | installed (state : Unlocked) (installs : next.installs = vault.installs + 1)
      (stamp : next.lastFreshCheckAt = now) (held : next.state = some state)
      (mine : state.id = vault.installs + 1)

theorem StateChange.installs_le {vault next : VaultManager} {now : Nat} {exchanged : Option Nat}
    (change : StateChange vault now exchanged next) : vault.installs ≤ next.installs := by
  cases change <;> omega

theorem StateChange.stamp_le {vault next : VaultManager} {now : Nat} {exchanged : Option Nat}
    (change : StateChange vault now exchanged next) (before : vault.lastFreshCheckAt ≤ now) :
    next.lastFreshCheckAt ≤ now := by
  cases change <;> omega

structure FreshStep (vault : VaultManager) (now : Nat) (old : Option VaultStage)
    (answer : Option VaultAnswer) (progress : VaultProgress) : Prop where
  change : StateChange vault now (exchangeOf old answer) progress.vault
  failed : progress.authFailed = true → progress.vault.state = none
  passes : ∀ owner ∈ progress.stage.passing,
    progress.vault.holds owner = true ∧ now ≤ progress.vault.lastFreshCheckAt + freshWindowMs
  goesOn : ∀ owner ∈ progress.stage.computing, owner ∈ old.bind VaultStage.passing
  releases : progress.releases = true →
    ∃ owner ∈ old.bind VaultStage.passed, vault.holds owner = true

namespace FreshStep

variable {vault next : VaultManager} {now : Nat} {old : Option VaultStage}
  {answer : Option VaultAnswer} {stage : VaultStage}

theorem of_quiet (change : StateChange vault now (exchangeOf old answer) next)
    (unpassed : stage.passed = none)
    (kept : VaultProgress.releases { vault := next, stage } = false) :
    FreshStep vault now old answer { vault := next, stage } := by
  rw [VaultStage.passed, Option.or_eq_none_iff] at unpassed
  refine ⟨change, nofun, fun owner passing => ?_, fun owner computing => ?_, fun releases => ?_⟩
  · rw [unpassed.1] at passing
    cases passing
  · rw [unpassed.2] at computing
    cases computing
  · rw [kept] at releases
    cases releases

theorem same (unpassed : stage.passed = none)
    (kept : VaultProgress.releases { vault, stage } = false) :
    FreshStep vault now old answer { vault, stage } :=
  of_quiet (.kept rfl rfl rfl) unpassed kept

theorem disposed (unpassed : stage.passed = none)
    (kept : VaultProgress.releases { vault := vault.dispose, stage } = false) :
    FreshStep vault now old answer { vault := vault.dispose, stage } :=
  of_quiet (.locked rfl rfl rfl) unpassed kept

theorem authFailed (unpassed : stage.passed = none)
    (kept : VaultProgress.releases { vault := vault.dispose, stage } = false) :
    FreshStep vault now old answer (vault.handleAuthFailure stage) := by
  obtain ⟨change, -, passes, goesOn, releases⟩ :=
    @disposed vault now old answer stage unpassed kept
  exact ⟨change, fun _ => rfl, passes, goesOn, releases⟩

end FreshStep

namespace VaultManager

variable {vault : VaultManager} {now owner : Nat} {progress : VaultProgress}
  {old : Option VaultStage} {answer : Option VaultAnswer}

theorem holds_of_state {state : Unlocked} (held : vault.state = some state) :
    vault.holds state.id = true := by
  simp [holds, held]

theorem unpassed_checkedStage (purpose : FreshPurpose) :
    (checkedStage owner purpose false).passed = none := by
  cases purpose <;> rfl

theorem releases_checkedStage (vault : VaultManager) (purpose : FreshPurpose) (ok : Bool) :
    VaultProgress.releases { vault, stage := checkedStage owner purpose ok } = false := by
  cases purpose <;> rfl

theorem freshStep_checked {next : VaultManager} {purpose : FreshPurpose}
    (change : StateChange vault now (exchangeOf old answer) next) (held : next.holds owner = true)
    (fresh : now ≤ next.lastFreshCheckAt + freshWindowMs) :
    FreshStep vault now old answer { vault := next, stage := checkedStage owner purpose true } := by
  refine ⟨change, nofun, ?_, ?_, ?_⟩
  · intro other passing
    have same : other = owner := by
      cases purpose <;> cases passing <;> rfl
    subst same
    exact ⟨held, fresh⟩
  · intro other computing
    cases purpose <;> cases computing
  · intro releases
    rw [releases_checkedStage] at releases
    cases releases

theorem startRefresh_freshStep (state : Unlocked) (purpose : FreshPurpose) :
    FreshStep vault now old answer (vault.startRefresh now state purpose) := by
  unfold startRefresh
  split
  · exact .same rfl rfl
  · split
    · exact .same rfl rfl
    · exact .of_quiet (.kept rfl rfl rfl) rfl rfl

theorem startFresh_freshStep {state : Unlocked} (held : vault.state = some state)
    (purpose : FreshPurpose) :
    FreshStep vault now old answer (vault.startFresh now state purpose) := by
  unfold startFresh
  split
  · rename_i recent
    have fresh : now ≤ vault.lastFreshCheckAt + freshWindowMs := by
      unfold freshCheckIntervalMs at recent
      unfold freshWindowMs
      omega
    exact freshStep_checked (.kept rfl rfl rfl) (holds_of_state held) fresh
  · exact startRefresh_freshStep state purpose

theorem callProgress_freshStep (confirmApiOrigin : String → Option String) (call : VaultCall) :
    FreshStep vault now none none
      (ManagerRun.callProgress confirmApiOrigin vault now call) := by
  cases call with
  | unlock accountId apiOrigin =>
      simp only [ManagerRun.callProgress, unlock]
      split
      · exact .disposed rfl rfl
      · exact .disposed rfl rfl
  | logout =>
      simp only [ManagerRun.callProgress, logout]
      split
      · exact .same rfl rfl
      · exact .disposed rfl rfl
  | checkFresh =>
      simp only [ManagerRun.callProgress, checkFresh]
      split
      · exact .same rfl rfl
      · rename_i state held
        exact startFresh_freshStep held _
  | fieldsFor itemId pageOrigin =>
      simp only [ManagerRun.callProgress, fieldsFor]
      split
      · exact .same rfl rfl
      · rename_i state held
        exact startFresh_freshStep held _
  | getTotp itemId =>
      simp only [ManagerRun.callProgress, getTotp]
      split
      · exact .same rfl rfl
      · rename_i state held
        exact startFresh_freshStep held _
  | saveItem input =>
      simp only [ManagerRun.callProgress, saveItem]
      split
      · exact .same rfl rfl
      · rename_i state held
        split
        · exact .same rfl rfl
        · exact startFresh_freshStep held _

theorem resumeUnlock_freshStep {accountId : Id} {stage : UnlockStage} {answer : VaultAnswer}
    (resumed : vault.resumeUnlock now accountId stage answer = some progress) :
    FreshStep vault now (some (.unlocking accountId stage)) (some answer) progress := by
  unfold resumeUnlock at resumed
  split at resumed
  · cases resumed
    exact .disposed rfl rfl
  · cases resumed
    exact .disposed rfl rfl
  · cases resumed
    exact .same rfl rfl
  · cases resumed
    exact .same rfl rfl
  · cases resumed
    exact .same rfl rfl
  · split at resumed <;> cases resumed <;> exact .same rfl rfl
  · cases resumed
    exact .same rfl rfl
  · cases resumed
    exact .same rfl rfl
  · cases resumed
    exact .of_quiet (.kept rfl rfl rfl) rfl rfl
  · cases resumed
    exact .of_quiet (.installed _ rfl rfl rfl rfl) rfl rfl
  · dsimp only at resumed
    split at resumed <;> cases resumed
    · exact .of_quiet (.installed _ rfl rfl rfl rfl) rfl rfl
    · exact .same rfl rfl
  · cases resumed

theorem resumeFresh_freshStep {purpose : FreshPurpose} {stage : FreshStage} {answer : VaultAnswer}
    (resumed : vault.resumeFresh now owner purpose stage answer = some progress) :
    FreshStep vault now (some (.fresh owner purpose stage)) (some answer) progress := by
  have refused : FreshStep vault now (some (.fresh owner purpose stage)) (some answer)
      { vault, stage := checkedStage owner purpose false } :=
    .same (unpassed_checkedStage purpose) (releases_checkedStage vault purpose false)
  unfold resumeFresh at resumed
  split at resumed
  · split at resumed
    · cases resumed
      exact .same rfl rfl
    · split at resumed <;> cases resumed
      exact .same rfl rfl
  · cases resumed
    have stored := (touched_storeToken vault owner ‹ApiSession›).state
    refine .of_quiet (.kept rfl rfl ?_) rfl rfl
    have ids := congrArg (Option.map Prod.fst) stored
    rw [Option.map_map, Option.map_map] at ids
    exact ids
  · cases resumed
    exact .of_quiet (.kept rfl rfl rfl) rfl rfl
  · cases resumed
    exact .of_quiet (.kept rfl rfl rfl) rfl rfl
  · split at resumed <;> cases resumed
    -- A refresh that fails locks the vault.
    · exact .authFailed rfl rfl
    · exact .of_quiet (.kept rfl rfl rfl) rfl rfl
  · split at resumed <;> cases resumed
    · exact .same rfl rfl
    · exact refused
  · split at resumed <;> rename_i held <;> cases resumed
    -- The state is compared and the stamp is set in one synchronous piece.
    · exact freshStep_checked (.stamped owner rfl held rfl rfl rfl) held (Nat.le_add_right _ _)
    · exact refused
  · split at resumed <;> cases resumed
    · exact .authFailed (unpassed_checkedStage purpose)
        (releases_checkedStage vault.dispose purpose false)
    · exact refused
  · cases resumed

section Items

variable {parseOrigin : String → Option ParsedOrigin} {sealPayload : SealRequest → Option Wire.Bytes}

theorem freshStep_of_checked {purpose : FreshPurpose} (passed : vault.holds owner = true)
    {ok : Bool} (succeeded : ok = true) (same : progress.vault = vault)
    (quiet : progress.authFailed = false) (unpassed : progress.stage.passing = none)
    (goesOn : ∀ other ∈ progress.stage.computing, other = owner) :
    FreshStep vault now (some (.fresh owner purpose (.checked ok))) answer progress := by
  subst succeeded
  refine ⟨same ▸ .kept rfl rfl rfl, fun failed => ?_, fun other passing => ?_,
    fun other computing => goesOn other computing ▸ rfl, fun _ => ⟨owner, rfl, passed⟩⟩
  · rw [quiet] at failed
    cases failed
  · rw [unpassed] at passing
    cases passing

theorem resumeChecked_freshStep {ok : Bool} {purpose : FreshPurpose} {answer : VaultAnswer}
    (resumed : vault.resumeChecked parseOrigin sealPayload owner ok purpose answer =
      some progress) :
    FreshStep vault now (some (.fresh owner purpose (.checked ok))) (some answer) progress := by
  have mine {state : Unlocked}
      (current : (vault.state.filter fun state => ok && state.id == owner) = some state) :
      vault.holds owner = true ∧ ok = true ∧ state.id = owner := by
    rw [Option.filter_eq_some_iff, Bool.and_eq_true, beq_iff_eq] at current
    obtain ⟨held, succeeded, same⟩ := current
    exact ⟨same ▸ holds_of_state held, succeeded, same⟩
  unfold resumeChecked at resumed
  dsimp only at resumed
  split at resumed
  · cases resumed
    exact .same rfl rfl
  · rename_i current
    cases resumed
    obtain ⟨held, succeeded, same⟩ := mine current
    unfold fieldsOf
    dsimp only
    split
    · exact freshStep_of_checked held succeeded rfl rfl rfl nofun
    · split
      · split
        · refine freshStep_of_checked held succeeded rfl rfl rfl ?_
          rintro other ⟨⟩
          exact same
        · exact freshStep_of_checked held succeeded rfl rfl rfl nofun
      · exact freshStep_of_checked held succeeded rfl rfl rfl nofun
  · cases resumed
    exact .same rfl rfl
  · rename_i current
    cases resumed
    obtain ⟨held, succeeded, same⟩ := mine current
    unfold totpOf
    split
    · exact freshStep_of_checked held succeeded rfl rfl rfl nofun
    · split
      · refine freshStep_of_checked held succeeded rfl rfl rfl ?_
        rintro other ⟨⟩
        exact same
      · exact freshStep_of_checked held succeeded rfl rfl rfl nofun
  · cases resumed
    exact .same rfl rfl
  · rename_i current
    cases resumed
    obtain ⟨held, succeeded, -⟩ := mine current
    unfold uploadOf
    dsimp only
    split <;> exact freshStep_of_checked held succeeded rfl rfl rfl nofun
  · cases resumed

theorem resumeMutating_freshStep {itemId : Id} {data : VaultItemData}
    (outcome : Except (Thrown ItemRecord Unit) (MutateOutcome ItemRecord)) :
    FreshStep vault now old answer (vault.resumeMutating owner itemId data outcome) := by
  unfold resumeMutating
  dsimp only
  split
  · exact .authFailed rfl rfl
  · rename_i state items current _
    rw [Option.filter_eq_some_iff] at current
    refine .of_quiet (.kept rfl rfl ?_) rfl rfl
    rw [current.1]
    rfl
  · exact .same rfl rfl

theorem resume_freshStep {stage : VaultStage} {answer : VaultAnswer}
    (resumed : vault.resume parseOrigin sealPayload now stage answer = some progress) :
    FreshStep vault now (some stage) (some answer) progress := by
  unfold VaultManager.resume at resumed
  split at resumed
  · exact resumeUnlock_freshStep resumed
  · cases resumed
    exact .disposed rfl rfl
  · cases resumed
    exact .disposed rfl rfl
  · exact resumeChecked_freshStep resumed
  · exact resumeFresh_freshStep resumed
  · cases resumed
    refine ⟨.kept rfl rfl rfl, nofun, nofun, nofun, fun releases => ⟨_, rfl, ?_⟩⟩
    by_contra lost
    rw [Bool.not_eq_true] at lost
    simp [VaultProgress.releases, lost] at releases
  · cases resumed
    refine ⟨.kept rfl rfl rfl, nofun, nofun, nofun, fun releases => ⟨_, rfl, ?_⟩⟩
    by_contra lost
    rw [Bool.not_eq_true] at lost
    simp [VaultProgress.releases, lost] at releases
  · cases resumed
    exact resumeMutating_freshStep _
  · cases resumed

end Items

end VaultManager

namespace ManagerRun

structure Invariant (run : ManagerRun) : Prop where
  stamp : run.vault.lastFreshCheckAt ≤ run.clock
  exchanged : ∀ state ∈ run.vault.state, ∃ exchangedAt ∈ run.exchangedAt state.id,
    run.vault.lastFreshCheckAt ≤ exchangedAt
  numbered : ∀ state ∈ run.vault.state, state.id ≤ run.vault.installs
  failed : ∀ id ∈ run.failedStates, id ≤ run.vault.installs
  checked : ∀ t, ∀ stage ∈ run.tasks t, ∀ owner ∈ stage.passed,
    ∃ check ∈ run.checks t, check.Fresh owner
  guarded : run.Guarded

section Invariant

variable {run next : ManagerRun} {t now : Nat} {old : Option VaultStage}
  {answer : Option VaultAnswer} {progress : VaultProgress}

theorem state_of_holds {vault : VaultManager} {owner : Nat} (held : vault.holds owner = true) :
    ∃ state ∈ vault.state, state.id = owner := by
  rw [VaultManager.holds, Option.any_eq_true] at held
  obtain ⟨state, there, same⟩ := held
  exact ⟨state, there, beq_iff_eq.mp same⟩

theorem invariant_initial : Invariant {} where
  stamp := Nat.le_refl 0
  exchanged := nofun
  numbered := nofun
  failed := nofun
  checked := nofun
  guarded := ⟨nofun, nofun⟩

theorem state_of_same {vault next : VaultManager}
    (same : next.state.map (fun state => state.id) = vault.state.map fun state => state.id)
    {state : Unlocked} (there : state ∈ next.state) : ∃ before ∈ vault.state,
      before.id = state.id := by
  rw [Option.mem_def] at there
  rw [there, Option.map_some, eq_comm, Option.map_eq_some_iff] at same
  exact same

theorem exchangesAfter_of_ne {exchanged : Option Nat} {id : Nat}
    (other : progress.vault.installs = run.vault.installs ∨ id ≠ progress.vault.installs)
    (apart : exchanged ≠ some id) :
    run.exchangesAfter now exchanged progress id = run.exchangedAt id := by
  have listed : (match exchanged with
      | none => run.exchangedAt
      | some owner => Function.update run.exchangedAt owner (some now)) id = run.exchangedAt id := by
    cases exchanged with
    | none => rfl
    | some owner => exact Function.update_of_ne (fun same => apart (congrArg some same.symm)) _ _
  unfold exchangesAfter
  split
  · exact listed
  · rename_i changed
    rw [Function.update_of_ne (other.resolve_left changed)]
    exact listed

theorem exchangesAfter_exchanged {owner : Nat}
    (kept : progress.vault.installs = run.vault.installs) :
    run.exchangesAfter now (some owner) progress owner = some now := by
  unfold exchangesAfter
  rw [if_pos kept]
  exact Function.update_self _ _ _

theorem Invariant.exchanges (invariant : run.Invariant) (later : run.clock ≤ now)
    (change : StateChange run.vault now (exchangeOf old answer) progress.vault) :
    ∀ state ∈ progress.vault.state,
      ∃ exchangedAt ∈ run.exchangesAfter now (exchangeOf old answer) progress state.id,
        progress.vault.lastFreshCheckAt ≤ exchangedAt := by
  intro state there
  cases change with
  | locked _ _ nothing =>
      rw [nothing] at there
      cases there
  | kept installs stamp same =>
      obtain ⟨before, held, is⟩ := state_of_same same there
      obtain ⟨exchangedAt, found, bound⟩ := invariant.exchanged before held
      -- An exchange of the installed state is later than its stamp.
      by_cases listed : exchangeOf old answer = some state.id
      · rw [listed, exchangesAfter_exchanged installs, stamp]
        exact ⟨now, rfl, Nat.le_trans invariant.stamp later⟩
      · rw [exchangesAfter_of_ne (.inl installs) listed, stamp, ← is]
        exact ⟨exchangedAt, found, bound⟩
  | stamped owner listed held installs stamp same =>
      obtain ⟨before, holds, is⟩ := state_of_same same there
      obtain ⟨other, there, mine⟩ := state_of_holds held
      have both := Option.mem_unique holds there
      -- The device list that is stamped was that of the installed state.
      rw [← is, both, mine, listed, exchangesAfter_exchanged installs]
      exact ⟨now, rfl, stamp.le⟩
  | installed new installs stamp held mine =>
      rw [held] at there
      cases there
      have changed : progress.vault.installs ≠ run.vault.installs := by omega
      refine ⟨now, ?_, stamp.le⟩
      unfold exchangesAfter
      rw [if_neg changed, mine, ← installs, Function.update_self]
      rfl

theorem Invariant.states (invariant : run.Invariant)
    (step : FreshStep run.vault now old answer progress) :
    (∀ state ∈ progress.vault.state, state.id ≤ progress.vault.installs) ∧
      (∀ id ∈ (run.advance t now old answer progress).failedStates, id ≤ progress.vault.installs) ∧
      ∀ state ∈ progress.vault.state,
        state.id ∉ (run.advance t now old answer progress).failedStates := by
  have grows := step.change.installs_le
  -- A failure that is seen locks the vault in the same step.
  have failed : ∀ id ∈ (run.advance t now old answer progress).failedStates,
      id ∈ run.failedStates ∨ progress.vault.state = none ∧ id ≤ run.vault.installs := by
    intro id among
    simp only [advance] at among
    split at among
    · rename_i observed
      rw [List.mem_append, Option.mem_toList, Option.map_eq_some_iff] at among
      obtain ⟨state, there, rfl⟩ | before := among
      · exact .inr ⟨step.failed observed, invariant.numbered state there⟩
      · exact .inl before
    · exact .inl among
  refine ⟨?_, ?_, ?_⟩
  · intro state there
    cases step.change with
    | locked _ _ nothing =>
        rw [nothing] at there
        cases there
    | kept _ _ same =>
        obtain ⟨before, held, is⟩ := state_of_same same there
        have bound := invariant.numbered before held
        omega
    | stamped _ _ _ _ _ same =>
        obtain ⟨before, held, is⟩ := state_of_same same there
        have bound := invariant.numbered before held
        omega
    | installed new installs _ held mine =>
        rw [held] at there
        cases there
        omega
  · intro id among
    obtain before | ⟨-, bound⟩ := failed id among
    · have bound := invariant.failed id before
      omega
    · omega
  · intro state there among
    obtain before | ⟨nothing, -⟩ := failed _ among
    · have bound := invariant.failed _ before
      cases step.change with
      | locked _ _ nothing =>
          rw [nothing] at there
          cases there
      | kept _ _ same =>
          obtain ⟨other, held, is⟩ := state_of_same same there
          exact invariant.guarded.locked other held (is ▸ before)
      | stamped _ _ _ _ _ same =>
          obtain ⟨other, held, is⟩ := state_of_same same there
          exact invariant.guarded.locked other held (is ▸ before)
      | installed new installs _ held mine =>
          rw [held] at there
          cases there
          omega
    · rw [nothing] at there
      cases there

theorem remaining_eq_some {stage other : VaultStage} (goesOn : stage.remaining = some other) :
    other = stage := by
  cases stage <;> cases goesOn <;> rfl

theorem Invariant.checks (invariant : run.Invariant) (later : run.clock ≤ now)
    (here : run.tasks t = old) (step : FreshStep run.vault now old answer progress) :
    ∀ other, ∀ stage ∈ (run.advance t now old answer progress).tasks other,
      ∀ owner ∈ stage.passed,
        ∃ check ∈ (run.advance t now old answer progress).checks other, check.Fresh owner := by
  intro other stage there owner passed
  have exchanges := invariant.exchanges later step.change
  by_cases same : other = t
  · subst same
    simp only [advance, Function.update_self] at there
    obtain rfl := remaining_eq_some there
    cases passing : progress.stage.passing with
    | some mine =>
        rw [VaultStage.passed, passing, Option.some_or] at passed
        cases passed
        -- The check is made in the installed state, of which the invariant knows.
        obtain ⟨held, recent⟩ := step.passes owner passing
        obtain ⟨state, installed, is⟩ := state_of_holds held
        obtain ⟨exchangedAt, found, bound⟩ := exchanges state installed
        rw [is] at found
        refine ⟨_, by simp only [advance, passing, Function.update_self]; rfl, rfl, held,
          exchangedAt, found, ?_⟩
        dsimp only
        omega
    | none =>
        rw [VaultStage.passed, passing, Option.none_or] at passed
        -- The method computes its code under the check that it has passed.
        have before := step.goesOn owner passed
        simp only [advance, passing]
        rw [Option.mem_def, Option.bind_eq_some_iff] at before
        obtain ⟨oldStage, is, passing⟩ := before
        refine invariant.checked other oldStage (here.trans is) owner ?_
        rw [VaultStage.passed, passing, Option.some_or]
        rfl
  · simp only [advance, Function.update_of_ne same] at there
    have before := invariant.checked other stage there owner passed
    cases passing : progress.stage.passing with
    | none =>
        simp only [advance, passing]
        exact before
    | some _ =>
        simp only [advance, passing, Function.update_of_ne same]
        exact before

theorem Invariant.advance (invariant : run.Invariant) (later : run.clock ≤ now)
    (here : run.tasks t = old) (step : FreshStep run.vault now old answer progress) :
    (run.advance t now old answer progress).Invariant := by
  obtain ⟨numbered, failed, locked⟩ := invariant.states (t := t) step
  refine ⟨step.change.stamp_le (Nat.le_trans invariant.stamp later),
    invariant.exchanges later step.change, numbered, failed, invariant.checks later here step, ?_,
    locked⟩
  intro release among
  simp only [ManagerRun.advance] at among
  split at among
  · rename_i released
    rw [List.mem_append, List.mem_singleton] at among
    obtain before | rfl := among
    · exact invariant.guarded.fresh release before
    · obtain ⟨owner, passed, held⟩ := step.releases released
      rw [Option.mem_def] at passed
      obtain ⟨state, installed, is⟩ := state_of_holds held
      -- A release is made in the installed state, whose failure would have locked it.
      have known := invariant.guarded.locked state installed
      rw [is] at known
      refine ⟨?_, ?_, owner, passed, ?_⟩
      · rw [passed]
        exact held
      · rw [passed]
        simpa using known
      · rw [Option.bind_eq_some_iff] at passed
        obtain ⟨stage, is, passed⟩ := passed
        exact invariant.checked t stage (here.trans is) owner passed
  · exact invariant.guarded.fresh release among

theorem Invariant.lock (invariant : run.Invariant) :
    Invariant { run with vault := run.vault.lock } :=
  ⟨Nat.zero_le _, nofun, nofun, invariant.failed, invariant.checked,
    invariant.guarded.fresh, nofun⟩

variable {parseOrigin : String → Option ParsedOrigin}
  {confirmApiOrigin : String → Option String} {sealPayload : SealRequest → Option Wire.Bytes}

theorem Invariant.step (invariant : run.Invariant) {action : ManagerAction}
    (stepped : run.step parseOrigin confirmApiOrigin sealPayload action = some next) :
    next.Invariant := by
  cases action with
  | lock =>
      cases stepped
      exact invariant.lock
  | call t now call =>
      simp only [ManagerRun.step] at stepped
      split at stepped
      · rename_i enabled
        cases stepped
        exact invariant.advance enabled.1 enabled.2
          (VaultManager.callProgress_freshStep confirmApiOrigin call)
      · cases stepped
  | resume t now answer =>
      simp only [ManagerRun.step] at stepped
      split at stepped
      · rename_i later
        simp only [Option.bind_eq_some_iff, Option.map_eq_some_iff] at stepped
        obtain ⟨stage, here, progress, resumed, rfl⟩ := stepped
        exact invariant.advance later here (VaultManager.resume_freshStep resumed)
      · cases stepped

theorem always_guarded (actions : List ManagerAction) :
    Always (step parseOrigin confirmApiOrigin sealPayload) Guarded {} actions :=
  always_of_preserved (fun _ _ _ invariant stepped => Invariant.step invariant stepped)
    (fun _ invariant => invariant.guarded) invariant_initial

end Invariant

end ManagerRun

end ZenPass.Extension
