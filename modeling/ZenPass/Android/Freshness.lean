import ZenPass.Android.LockWins
import ZenPass.Client.Freshness

set_option autoImplicit false

namespace ZenPass.Android

open Client Sdk Transition

namespace Stage

def passing : Stage → Option Nat
  | .totp owner _ .rechecking | .saving owner _ .rechecking => some owner.id
  | _ => none

def passed : Stage → Option Nat
  | .totp owner _ _ => some owner.id
  | .saving owner _ .rechecking | .saving owner _ .readingRevision
  | .saving owner _ (.sealing _ _) | .saving owner _ (.sending _) => some owner.id
  | _ => none

def clears : Stage → Bool
  | .disposing .reading _ | .disposing (.clearing _) _ => true
  | _ => false

def plain : Stage → Bool
  | .disposing _ (.returns (.totp (some _))) => false
  | _ => true

def quiet (stage : Stage) : Bool := stage.plain && stage.passed.isNone && stage.passing.isNone

end Stage

def FreshPurpose.ids : FreshPurpose → List Nat
  | .checkFresh => []
  | .getTotp owner _ | .saveItem owner _ => [owner.id]

def Stage.ids : Stage → List Nat
  | .startingFresh purpose => purpose.ids
  | .fresh owner purpose _ => owner.id :: purpose.ids
  | .totp owner _ _ | .saving owner _ _ => [owner.id]
  | _ => []

/-- `exchangedAt` is the time of the last successful exchange of each state: an unlock, when it
installs its state and when it ends, or a device list. `installedBy` is the state that the unlock of
a thread has installed. `locking` are the threads that have seen an authentication fail, with its
state, and have not cleared `state` since. -/
structure FreshRun where
  vault : VaultManager := {}
  clock : Nat := 0
  exchangedAt : Nat → Option Nat := fun _ => none
  checks : Nat → Option Check := fun _ => none
  installedBy : Nat → Option Nat := fun _ => none
  failedStates : List Nat := []
  locking : List (Nat × Nat) := []
  releases : List Release := []

namespace FreshRun

def releasing (vault next : VaultManager) : Bool :=
  decide (vault.uploads.length < next.uploads.length) ||
    (next.results.drop vault.results.length).any fun result => result.2 matches .totp (some _)

def exchangeOf (run : FreshRun) (t : Nat) (next : VaultManager) : Stage → Answer → Option Nat
  | .fresh owner _ .listingDevices, .done => some owner.id
  | .unlocking _ (.installing _ _ _ _), .done => some next.installs
  | .unlocking _ .stamping, .done => run.installedBy t
  | _, _ => none

def failureOf (vault : VaultManager) : Stage → Answer → Option Nat
  | .fresh owner _ .failed, .done | .saving owner _ .unauthorized, .done =>
      if vault.holds owner then some owner.id else none
  | _, _ => none

def holdsId (vault : VaultManager) (id : Nat) : Bool := vault.state.any fun state => state.id == id

def exchangesAfter (run : FreshRun) (t now : Nat) (next : VaultManager) (old : Stage)
    (answer : Answer) : Nat → Option Nat :=
  match run.exchangeOf t next old answer with
  | none => run.exchangedAt
  | some id => Function.update run.exchangedAt id (some now)

def advance (run : FreshRun) (t now : Nat) (old : Stage) (answer : Answer) (next : VaultManager) :
    FreshRun :=
  let exchangedAt := run.exchangesAfter t now next old answer
  { vault := next
    clock := now
    exchangedAt
    checks :=
      match (next.tasks t).bind Stage.passing with
      | none => run.checks
      | some id =>
          Function.update run.checks t (some ⟨id, now, holdsId run.vault id, exchangedAt id⟩)
    installedBy :=
      if next.installs = run.vault.installs then run.installedBy
      else Function.update run.installedBy t (some next.installs)
    failedStates := (failureOf run.vault old answer).toList ++ run.failedStates
    locking :=
      ((failureOf run.vault old answer).map fun id => (t, id)).toList ++
        if old.isClearing then run.locking.filter fun entry => entry.1 ≠ t else run.locking
    releases :=
      if releasing run.vault next then
        run.releases ++
          [{ owner := old.passed
             held := old.passed.any (holdsId run.vault)
             authFailed := old.passed.any run.failedStates.contains
             check := run.checks t }]
      else run.releases }

section Steps

variable (confirmApiOrigin : String → Option String) (sealPayload : SealRequest → Option Wire.Bytes)

def step (run : FreshRun) : Action → Option FreshRun
  | .call t call =>
      (run.vault.step confirmApiOrigin sealPayload (.call t call)).map fun next =>
        { run with vault := next }
  | .resume t now answer =>
      if run.clock ≤ now then
        (run.vault.tasks t).bind fun old =>
          (run.vault.step confirmApiOrigin sealPayload (.resume t now answer)).map fun next =>
            run.advance t now old answer next
      else none

end Steps

/-- Every release is fresh, and a state whose authentication has failed is not installed, unless a
thread is about to clear it. -/
structure Guarded (run : FreshRun) : Prop where
  fresh : ∀ release ∈ run.releases, release.Fresh
  locked : ∀ state ∈ run.vault.state, state.id ∈ run.failedStates →
    ∃ t, (t, state.id) ∈ run.locking ∧ ∃ stage ∈ run.vault.tasks t, stage.clears = true

def heardAt (run : FreshRun) (now id : Nat) : Prop :=
  ∃ exchangedAt ∈ run.exchangedAt id, now ≤ exchangedAt

def unfailed (run : FreshRun) (id : Nat) : Prop := ∀ entry ∈ run.locking, entry.2 ≠ id

/-- `lastFreshCheckAt` is stamped with no time later than the last exchange of the state that is
installed then. A save is sent, and a code is returned, while its state is installed and no thread
has seen its authentication fail. -/
def stepsInTime (run : FreshRun) (t now : Nat) : Stage → Answer → Prop
  | .fresh _ _ .stamping, .done => ∀ state ∈ run.vault.state, run.heardAt now state.id
  | .unlocking _ .stamping, .done =>
      ∀ state ∈ run.vault.state, run.installedBy t = some state.id ∨ run.heardAt now state.id
  | .saving owner _ (.sending _), .done =>
      (run.vault.fields owner.id).accessToken.isSome = true →
        run.vault.holds owner = true ∧ run.unfailed owner.id
  | .totp owner _ .computing, .totp (some _) =>
      run.vault.holds owner = true → run.unfailed owner.id
  | _, _ => True

def inTime (run : FreshRun) : Action → Prop
  | .call _ _ => True
  | .resume t now answer => ∀ stage ∈ run.vault.tasks t, run.stepsInTime t now stage answer

instance (run : FreshRun) (now id : Nat) : Decidable (run.heardAt now id) := by
  unfold heardAt
  infer_instance

instance (run : FreshRun) (id : Nat) : Decidable (run.unfailed id) := by
  unfold unfailed
  infer_instance

instance (run : FreshRun) (t now : Nat) (stage : Stage) (answer : Answer) :
    Decidable (run.stepsInTime t now stage answer) := by
  unfold stepsInTime
  split <;> infer_instance

instance (run : FreshRun) (action : Action) : Decidable (run.inTime action) := by
  unfold inTime
  split <;> infer_instance

end FreshRun

def Stage.stamps : Stage → Answer → Bool
  | .fresh _ _ .stamping, .done => true
  | _, _ => false

inductive StateChange (vault : VaultManager) (now : Nat) (old : Stage) (answer : Answer)
    (next : VaultManager) : Prop where
  | kept (installs : next.installs = vault.installs)
      (stamp : next.lastFreshCheckAt = vault.lastFreshCheckAt)
      (state : next.state = vault.state)
  | cleared (installs : next.installs = vault.installs)
      (stamp : next.lastFreshCheckAt = vault.lastFreshCheckAt) (state : next.state = none)
  | forgotten (installs : next.installs = vault.installs) (stamp : next.lastFreshCheckAt = 0)
      (state : next.state = vault.state)
  | stamped (is : old.stamps answer = true) (installs : next.installs = vault.installs)
      (stamp : next.lastFreshCheckAt = now) (state : next.state = vault.state)
  | unlocked (accountId : String) (is : old = .unlocking accountId .stamping)
      (done : answer = .done) (installs : next.installs = vault.installs)
      (stamp : next.lastFreshCheckAt = now) (state : next.state = vault.state)
  | installed (accountId : String) (session : ApiSession) (bundle : AccountBundle)
      (keySession : Nat) (items : KeyedStore.InsertionMap Id ItemEntry) (state : UnlockedState)
      (is : old = .unlocking accountId (.installing session bundle keySession items))
      (done : answer = .done) (installs : next.installs = vault.installs + 1)
      (stamp : next.lastFreshCheckAt = vault.lastFreshCheckAt) (held : next.state = some state)
      (mine : state.id = vault.installs + 1)

inductive Releasing (vault : VaultManager) : Stage → Answer → Prop where
  | sends (owner : UnlockedState) (input : SaveItemInput) (mutation : Mutation)
      (token : (vault.fields owner.id).accessToken.isSome = true) :
      Releasing vault (.saving owner input (.sending mutation)) .done
  | returns (owner : UnlockedState) (itemId : Id) (code : String)
      (held : vault.holds owner = true) :
      Releasing vault (.totp owner itemId .computing) (.totp (some code))

structure Reached (vault : VaultManager) (now : Nat) (old : Stage) (answer : Answer)
    (new : Option Stage) : Prop where
  ids : ∀ stage ∈ new, ∀ id ∈ stage.ids, id ∈ old.ids ∨ FreshRun.holdsId vault id = true
  passes : ∀ stage ∈ new, ∀ id ∈ stage.passing,
    now ≤ vault.lastFreshCheckAt + freshWindowMs ∨ old.stamps answer = true
  goesOn : ∀ stage ∈ new, stage.passing = none → ∀ id ∈ stage.passed, id ∈ old.passed
  locks : (FreshRun.failureOf vault old answer).isSome = true ∨
    old.clears = true ∧ old.isClearing = false → ∃ stage ∈ new, stage.clears = true
  plain : ∀ stage ∈ new, stage.plain = true

structure FreshMove (vault : VaultManager) (t now : Nat) (old : Stage) (answer : Answer)
    (next : VaultManager) : Prop where
  change : StateChange vault now old answer next
  tasks : ∀ other ≠ t, next.tasks other = vault.tasks other
  reached : Reached vault now old answer (next.tasks t)
  clearing : old.isClearing = true → next.state = none
  releases : FreshRun.releasing vault next = true → Releasing vault old answer

namespace Progress

def releases : Progress → Bool
  | .returns (.totp (some _)) => true
  | _ => false

def quiet (progress : Progress) : Bool := !progress.releases && progress.stage.all Stage.quiet

def ids (progress : Progress) : List Nat := progress.stage.elim [] Stage.ids

end Progress

section Moves

variable {vault changed next : VaultManager} {t now : Nat} {old : Stage} {answer : Answer}
  {progress : Progress}

theorem FreshRun.state_of_holdsId {id : Nat} (held : FreshRun.holdsId vault id = true) :
    ∃ state ∈ vault.state, state.id = id := by
  rw [FreshRun.holdsId, Option.any_eq_true] at held
  obtain ⟨state, there, same⟩ := held
  exact ⟨state, there, beq_iff_eq.mp same⟩

theorem FreshRun.holdsId_of_state {state : UnlockedState}
    (there : state ∈ vault.state) : FreshRun.holdsId vault state.id = true := by
  rw [Option.mem_def] at there
  simp [FreshRun.holdsId, there]

theorem StateChange.state_of (change : StateChange vault now old answer next)
    {state : UnlockedState} (there : state ∈ next.state) :
    state ∈ vault.state ∨ state.id = vault.installs + 1 ∧ next.installs = vault.installs + 1 := by
  cases change with
  | kept _ _ same | forgotten _ _ same => exact .inl (same ▸ there)
  | stamped _ _ _ same => exact .inl (same ▸ there)
  | unlocked _ _ _ _ _ same => exact .inl (same ▸ there)
  | cleared _ _ nothing =>
      rw [nothing] at there
      cases there
  | installed _ _ _ _ _ new _ _ installs _ held mine =>
      rw [held] at there
      cases there
      exact .inr ⟨mine, installs⟩

theorem StateChange.installs_le (change : StateChange vault now old answer next) :
    vault.installs ≤ next.installs := by
  cases change <;> omega

theorem StateChange.stamp_le (change : StateChange vault now old answer next)
    (before : vault.lastFreshCheckAt ≤ now) : next.lastFreshCheckAt ≤ now := by
  cases change <;> omega

theorem StateChange.holdsId_before (change : StateChange vault now old answer next) {id : Nat}
    (known : id ≤ vault.installs) (held : FreshRun.holdsId next id = true) :
    FreshRun.holdsId vault id = true := by
  obtain ⟨state, there, rfl⟩ := FreshRun.state_of_holdsId held
  obtain before | ⟨new, -⟩ := change.state_of there
  · exact FreshRun.holdsId_of_state before
  · omega

theorem StateChange.proceed (change : StateChange vault now old answer changed) :
    StateChange vault now old answer (changed.proceed t progress) := by
  cases progress <;> cases change with
  | kept installs stamp state => exact .kept installs stamp state
  | cleared installs stamp state => exact .cleared installs stamp state
  | forgotten installs stamp state => exact .forgotten installs stamp state
  | stamped is installs stamp state => exact .stamped is installs stamp state
  | unlocked accountId is done installs stamp state =>
      exact .unlocked accountId is done installs stamp state
  | installed accountId session bundle keySession items state is done installs stamp held mine =>
      exact .installed accountId session bundle keySession items state is done installs stamp held
        mine

theorem releasing_proceed (uploads : changed.uploads = vault.uploads)
    (results : changed.results = vault.results) :
    FreshRun.releasing vault (changed.proceed t progress) = progress.releases := by
  cases progress with
  | goesOn stage =>
      simp [FreshRun.releasing, VaultManager.proceed, uploads, results, Progress.releases]
  | returns result =>
      simp only [FreshRun.releasing, VaultManager.proceed, uploads, results, Nat.lt_irrefl,
        decide_false, Bool.false_or, List.drop_left, List.any_cons, List.any_nil, Bool.or_false]
      cases result with
      | totp totp => cases totp <;> rfl
      | _ => rfl

theorem FreshMove.of_proceed (change : StateChange vault now old answer changed)
    (tasks : changed.tasks = vault.tasks)
    (reached : Reached vault now old answer progress.stage)
    (clearing : old.isClearing = true → changed.state = none)
    (releases : FreshRun.releasing vault (changed.proceed t progress) = true →
      Releasing vault old answer) :
    FreshMove vault t now old answer (changed.proceed t progress) := by
  refine ⟨change.proceed, fun other different => ?_, ?_, fun is => ?_, releases⟩
  · cases progress <;> exact (Function.update_of_ne different _ _).trans (congrFun tasks other)
  · cases progress with
    | goesOn stage =>
        simp only [VaultManager.proceed, Function.update_self]
        exact reached
    | returns result =>
        simp only [VaultManager.proceed, Function.update_self]
        exact reached
  · cases progress <;> exact clearing is

theorem locks_of_calm {goal : Prop} (unfailed : FreshRun.failureOf vault old answer = none)
    (undisposed : old.clears = false) :
    (FreshRun.failureOf vault old answer).isSome = true ∨
      old.clears = true ∧ old.isClearing = false → goal := by
  rw [unfailed, undisposed]
  rintro (failed | ⟨⟨⟩, -⟩)
  exact absurd failed Bool.false_ne_true

theorem Reached.returned (unfailed : FreshRun.failureOf vault old answer = none)
    (undisposed : old.clears = false) : Reached vault now old answer none := by
  refine ⟨?_, ?_, ?_, locks_of_calm unfailed undisposed, ?_⟩
  · rintro _ ⟨⟩
  · rintro _ ⟨⟩
  · rintro _ ⟨⟩
  · rintro _ ⟨⟩

theorem FreshMove.of_quiet (change : StateChange vault now old answer changed)
    (tasks : changed.tasks = vault.tasks) (uploads : changed.uploads = vault.uploads)
    (results : changed.results = vault.results) (ids : progress.ids ⊆ old.ids)
    (quiet : progress.quiet = true)
    (locks : (FreshRun.failureOf vault old answer).isSome = true ∨
      old.clears = true ∧ old.isClearing = false → ∃ stage ∈ progress.stage, stage.clears = true)
    (clearing : old.isClearing = true → changed.state = none) :
    FreshMove vault t now old answer (changed.proceed t progress) := by
  unfold Progress.quiet at quiet
  rw [Bool.and_eq_true, Bool.not_eq_true', Option.all_eq_true] at quiet
  obtain ⟨unreleased, quiet⟩ := quiet
  have unpassed (stage : Stage) (there : stage ∈ progress.stage) :
      stage.plain = true ∧ stage.passed = none ∧ stage.passing = none := by
    have all := quiet stage there
    simp only [Stage.quiet, Bool.and_eq_true, Option.isNone_iff_eq_none] at all
    exact ⟨all.1.1, all.1.2, all.2⟩
  refine .of_proceed change tasks ⟨?_, ?_, ?_, locks, ?_⟩ clearing ?_
  · intro stage there id among
    refine .inl (ids ?_)
    rw [Option.mem_def] at there
    rw [Progress.ids, there]
    exact among
  · intro stage there id passing
    rw [(unpassed stage there).2.2] at passing
    cases passing
  · intro stage there _ id passed
    rw [(unpassed stage there).2.1] at passed
    cases passed
  · exact fun stage there => (unpassed stage there).1
  · intro releasing
    rw [releasing_proceed uploads results, unreleased] at releasing
    cases releasing

theorem FreshMove.calm (change : StateChange vault now old answer changed)
    (tasks : changed.tasks = vault.tasks) (uploads : changed.uploads = vault.uploads)
    (results : changed.results = vault.results) (ids : progress.ids ⊆ old.ids)
    (quiet : progress.quiet = true) (unfailed : FreshRun.failureOf vault old answer = none)
    (undisposed : old.clears = false) (unclearing : old.isClearing = false) :
    FreshMove vault t now old answer (changed.proceed t progress) := by
  refine .of_quiet change tasks uploads results ids quiet (locks_of_calm unfailed undisposed) ?_
  rw [unclearing]
  rintro ⟨⟩

theorem afterDispose_quiet (confirmApiOrigin : String → Option String) {stage : DisposeStage}
    {after : AfterDispose} (plain : (Stage.disposing stage after).plain = true) :
    (VaultManager.afterDispose confirmApiOrigin after).quiet = true ∧
      (VaultManager.afterDispose confirmApiOrigin after).ids = [] := by
  cases after with
  | unlock accountId apiOrigin =>
      unfold VaultManager.afterDispose
      dsimp only
      split <;> exact ⟨rfl, rfl⟩
  | returns result =>
      cases result with
      | totp totp =>
          cases totp with
          | none => exact ⟨rfl, rfl⟩
          | some => cases plain
      | _ => exact ⟨rfl, rfl⟩

theorem disposing_quiet {stage : DisposeStage} {after : AfterDispose}
    (plain : (Stage.disposing stage after).plain = true) (next : DisposeStage) :
    (Progress.goesOn (.disposing next after)).quiet = true := by
  cases after with
  | unlock => rfl
  | returns result =>
      cases result with
      | totp totp =>
          cases totp with
          | none => rfl
          | some => cases plain
      | _ => rfl

theorem resumeDispose_freshMove (confirmApiOrigin : String → Option String) {after : AfterDispose}
    {stage : DisposeStage} (plain : (Stage.disposing stage after).plain = true) :
    FreshMove vault t now (.disposing stage after) answer
      (vault.resumeDispose confirmApiOrigin t after stage) := by
  obtain ⟨quiet, ids⟩ := afterDispose_quiet confirmApiOrigin plain
  have next := disposing_quiet plain
  unfold VaultManager.resumeDispose
  cases stage with
  | reading =>
      exact .of_quiet (.kept rfl rfl rfl) rfl rfl rfl (List.nil_subset _) (next _)
        (fun _ => ⟨_, rfl, rfl⟩) nofun
  | clearing held =>
      refine .of_quiet (.cleared rfl rfl rfl) rfl rfl rfl (List.nil_subset _) (next _) ?_
        fun _ => rfl
      -- The dispose has just cleared the state, so nothing is left to clear.
      rintro (failed | ⟨-, ⟨⟩⟩)
      exact absurd failed Bool.false_ne_true
  | forgetting held =>
      cases held with
      | none =>
          exact .calm (.forgotten rfl rfl rfl) rfl rfl rfl (ids ▸ List.nil_subset _) quiet rfl rfl
            rfl
      | some held =>
          exact .calm (.forgotten rfl rfl rfl) rfl rfl rfl (List.nil_subset _) (next _) rfl rfl rfl
  | closing held =>
      exact .calm (.kept rfl rfl rfl) rfl rfl rfl (List.nil_subset _) (next _) rfl rfl rfl
  | clearingToken held =>
      exact .calm (.kept rfl rfl rfl) rfl rfl rfl (ids ▸ List.nil_subset _) quiet rfl rfl rfl

theorem resumeUnlock_freshMove {accountId : String} {stage : UnlockStage}
    (resumed : vault.resumeUnlock t now accountId stage answer = some next) :
    FreshMove vault t now (.unlocking accountId stage) answer next := by
  have goesOn (changed : VaultManager) (progress : Progress)
      (change : StateChange vault now (.unlocking accountId stage) answer changed)
      (tasks : changed.tasks = vault.tasks) (uploads : changed.uploads = vault.uploads)
      (results : changed.results = vault.results) (ids : progress.ids = [])
      (quiet : progress.quiet = true) :
      FreshMove vault t now (.unlocking accountId stage) answer (changed.proceed t progress) :=
    .calm change tasks uploads results (ids ▸ List.nil_subset _) quiet rfl rfl rfl
  unfold VaultManager.resumeUnlock at resumed
  -- Only the installation and the stamp of the end change what is heard of.
  split at resumed <;> cases resumed
  · exact goesOn _ _ (.installed _ _ _ _ _ _ rfl rfl rfl rfl rfl rfl) rfl rfl rfl rfl rfl
  · exact goesOn _ _ (.unlocked _ rfl rfl rfl rfl rfl) rfl rfl rfl rfl rfl
  · exact goesOn _ _ (.kept rfl rfl rfl) rfl rfl rfl rfl rfl
  · exact goesOn _ _ (.kept rfl rfl rfl) rfl rfl rfl rfl rfl
  · exact goesOn _ _ (.kept rfl rfl rfl) rfl rfl rfl rfl rfl
  · exact goesOn _ _ (.kept rfl rfl rfl) rfl rfl rfl rfl rfl
  · exact goesOn _ _ (.kept rfl rfl rfl) rfl rfl rfl rfl rfl
  · exact goesOn _ _ (.kept rfl rfl rfl) rfl rfl rfl rfl rfl
  · exact goesOn _ _ (.kept rfl rfl rfl) rfl rfl rfl rfl rfl
  · exact goesOn _ _ (.kept rfl rfl rfl) rfl rfl rfl rfl rfl
  · split <;> exact goesOn _ _ (.kept rfl rfl rfl) rfl rfl rfl rfl rfl
  · exact goesOn _ _ (.kept rfl rfl rfl) rfl rfl rfl rfl rfl
  · exact goesOn _ _ (.kept rfl rfl rfl) rfl rfl rfl rfl rfl
  · exact goesOn _ _ (.kept rfl rfl rfl) rfl rfl rfl rfl rfl
  · split <;> exact goesOn _ _ (.kept rfl rfl rfl) rfl rfl rfl rfl rfl

theorem resumeLogout_freshMove {owner : UnlockedState}
    (resumed : vault.resumeLogout t owner answer = some next) :
    FreshMove vault t now (.loggingOut owner) answer next := by
  unfold VaultManager.resumeLogout at resumed
  split at resumed <;> cases resumed <;>
    exact .calm (.kept rfl rfl rfl) rfl rfl rfl (List.nil_subset _) rfl rfl rfl rfl

theorem checkedFresh_false (purpose : FreshPurpose) :
    (VaultManager.checkedFresh purpose false).quiet = true ∧
      (VaultManager.checkedFresh purpose false).ids = [] := by
  cases purpose <;> exact ⟨rfl, rfl⟩

theorem ids_checkedFresh (purpose : FreshPurpose) :
    (VaultManager.checkedFresh purpose true).ids = purpose.ids := by
  cases purpose <;> rfl

theorem FreshMove.checked {owner : UnlockedState} {purpose : FreshPurpose} {stage : FreshStage}
    (change : StateChange vault now (.fresh owner purpose stage) answer changed)
    (tasks : changed.tasks = vault.tasks) (uploads : changed.uploads = vault.uploads)
    (results : changed.results = vault.results)
    (unfailed : FreshRun.failureOf vault (.fresh owner purpose stage) answer = none)
    (recent : now ≤ vault.lastFreshCheckAt + freshWindowMs ∨
      (Stage.fresh owner purpose stage).stamps answer = true) :
    FreshMove vault t now (.fresh owner purpose stage) answer
      (changed.proceed t (VaultManager.checkedFresh purpose true)) := by
  refine .of_proceed change tasks
    ⟨?_, fun _ _ _ _ => recent, ?_, locks_of_calm unfailed rfl, ?_⟩ nofun ?_
  · intro new there id among
    refine .inl (List.mem_cons_of_mem _ ?_)
    rw [← ids_checkedFresh, Progress.ids, Option.mem_def.mp there]
    exact among
  · intro new there unpassing
    cases purpose <;> cases there <;> cases unpassing
  · intro new there
    cases purpose <;> cases there <;> rfl
  · intro releasing
    rw [releasing_proceed uploads results] at releasing
    cases purpose <;> cases releasing

theorem failedResult_plain (purpose : FreshPurpose) :
    (Progress.goesOn (.disposing .reading (.returns (VaultManager.failedResult purpose)))).quiet =
      true := by
  cases purpose <;> rfl

theorem resumeFresh_freshMove {owner : UnlockedState} {purpose : FreshPurpose} {stage : FreshStage}
    (resumed : vault.resumeFresh t now owner purpose stage answer = some next) :
    FreshMove vault t now (.fresh owner purpose stage) answer next := by
  obtain ⟨refused, none⟩ := checkedFresh_false purpose
  have refuses (unfailed : FreshRun.failureOf vault (.fresh owner purpose stage) answer = .none) :
      FreshMove vault t now (.fresh owner purpose stage) answer
        (vault.proceed t (VaultManager.checkedFresh purpose false)) :=
    .calm (.kept rfl rfl rfl) rfl rfl rfl (none ▸ List.nil_subset _) refused unfailed rfl rfl
  have goesOn (changed : VaultManager) (after : FreshStage)
      (change : StateChange vault now (.fresh owner purpose stage) answer changed)
      (tasks : changed.tasks = vault.tasks) (uploads : changed.uploads = vault.uploads)
      (results : changed.results = vault.results)
      (unfailed : FreshRun.failureOf vault (.fresh owner purpose stage) answer = .none) :
      FreshMove vault t now (.fresh owner purpose stage) answer
        (changed.proceed t (.goesOn (.fresh owner purpose after))) :=
    .calm change tasks uploads results (List.Subset.refl _) rfl unfailed rfl rfl
  unfold VaultManager.resumeFresh at resumed
  split at resumed <;> cases resumed
  · split
    · rename_i recent
      -- The last check is recent enough.
      refine .checked (.kept rfl rfl rfl) rfl rfl rfl rfl (.inl ?_)
      unfold freshCheckIntervalMs at recent
      unfold freshWindowMs
      omega
    · exact goesOn _ _ (.kept rfl rfl rfl) rfl rfl rfl rfl
  · exact goesOn _ _ (.kept rfl rfl rfl) rfl rfl rfl rfl
  · exact goesOn _ _ (.kept rfl rfl rfl) rfl rfl rfl rfl
  · split
    · exact goesOn _ _ (.kept rfl rfl rfl) rfl rfl rfl rfl
    · exact refuses rfl
  · exact goesOn _ _ (.kept rfl rfl rfl) rfl rfl rfl rfl
  · exact goesOn _ _ (.kept rfl rfl rfl) rfl rfl rfl rfl
  · split
    · exact goesOn _ _ (.kept rfl rfl rfl) rfl rfl rfl rfl
    · exact refuses rfl
  · exact goesOn _ _ (.kept rfl rfl rfl) rfl rfl rfl rfl
  · exact goesOn _ _ (.kept rfl rfl rfl) rfl rfl rfl rfl
  · exact goesOn _ _ (.kept rfl rfl rfl) rfl rfl rfl rfl
  · split
    · exact goesOn _ _ (.kept rfl rfl rfl) rfl rfl rfl rfl
    · exact refuses rfl
  -- The device list has just been stamped.
  · exact .checked (.stamped rfl rfl rfl rfl) rfl rfl rfl rfl (.inr rfl)
  · split
    -- The failure is seen in the installed state, and the dispose begins.
    · exact .of_quiet (.kept rfl rfl rfl) rfl rfl rfl (List.nil_subset _)
        (failedResult_plain purpose) (fun _ => ⟨_, rfl, rfl⟩) nofun
    · rename_i lost
      refine refuses ?_
      rw [FreshRun.failureOf, if_neg lost]

theorem resumeTotp_freshMove {owner : UnlockedState} {itemId : Id} {stage : TotpStage}
    (resumed : vault.resumeTotp t now owner itemId stage answer = some next) :
    FreshMove vault t now (.totp owner itemId stage) answer next := by
  have returns : FreshMove vault t now (.totp owner itemId stage) answer
      (vault.proceed t (.returns (.totp none))) :=
    .calm (.kept rfl rfl rfl) rfl rfl rfl (List.nil_subset _) rfl rfl rfl rfl
  have goesOn (after : TotpStage) (unpassing : (Stage.totp owner itemId after).passing = none) :
      FreshMove vault t now (.totp owner itemId stage) answer
        (vault.proceed t (.goesOn (.totp owner itemId after))) := by
    refine .of_proceed (.kept rfl rfl rfl) rfl ⟨?_, ?_, ?_, locks_of_calm rfl rfl, ?_⟩ nofun ?_
    · rintro _ ⟨⟩ id among
      exact .inl among
    · rintro _ ⟨⟩ id passing
      rw [unpassing] at passing
      cases passing
    · rintro _ ⟨⟩ _ id passed
      exact passed
    · rintro _ ⟨⟩
      rfl
    · intro releasing
      rw [releasing_proceed rfl rfl] at releasing
      cases releasing
  unfold VaultManager.resumeTotp at resumed
  split at resumed <;> cases resumed
  · split
    · exact goesOn _ rfl
    · exact returns
  · split
    · exact returns
    · split
      · exact returns
      · exact goesOn _ rfl
  · rename_i code
    refine .of_proceed (.kept rfl rfl rfl) rfl (.returned rfl rfl) nofun ?_
    intro releasing
    rw [releasing_proceed rfl rfl] at releasing
    -- The code is returned only in its own state.
    by_cases held : vault.holds owner = true
    · cases code with
      | none =>
          rw [if_pos held] at releasing
          cases releasing
      | some code => exact .returns owner itemId code held
    · rw [if_neg held] at releasing
      cases releasing

theorem resumeSave_freshMove {sealPayload : SealRequest → Option Wire.Bytes} {owner : UnlockedState}
    {input : SaveItemInput} {stage : SaveStage}
    (resumed : vault.resumeSave sealPayload t owner input stage answer = some next) :
    FreshMove vault t now (.saving owner input stage) answer next := by
  have calm (changed : VaultManager) (progress : Progress)
      (change : StateChange vault now (.saving owner input stage) answer changed)
      (tasks : changed.tasks = vault.tasks) (uploads : changed.uploads = vault.uploads)
      (results : changed.results = vault.results) (ids : progress.ids ⊆ [owner.id])
      (quiet : progress.quiet = true)
      (unfailed : FreshRun.failureOf vault (.saving owner input stage) answer = none) :
      FreshMove vault t now (.saving owner input stage) answer (changed.proceed t progress) :=
    .calm change tasks uploads results ids quiet unfailed rfl rfl
  have goesOn (after : SaveStage) (unpassing : (Stage.saving owner input after).passing = none)
      (passed : (Stage.saving owner input after).passed = (Stage.saving owner input stage).passed)
      (unfailed : FreshRun.failureOf vault (.saving owner input stage) answer = none) :
      FreshMove vault t now (.saving owner input stage) answer
        (vault.proceed t (.goesOn (.saving owner input after))) := by
    refine .of_proceed (.kept rfl rfl rfl) rfl ⟨?_, ?_, ?_, locks_of_calm unfailed rfl, ?_⟩ nofun ?_
    · rintro _ ⟨⟩ id among
      exact .inl among
    · rintro _ ⟨⟩ id passing
      rw [unpassing] at passing
      cases passing
    · rintro _ ⟨⟩ _ id there
      rw [passed] at there
      exact there
    · rintro _ ⟨⟩
      rfl
    · intro releasing
      rw [releasing_proceed rfl rfl] at releasing
      cases releasing
  have same : [owner.id] ⊆ [owner.id] := List.Subset.refl _
  unfold VaultManager.resumeSave at resumed
  split at resumed
  · cases resumed
    split
    · exact goesOn _ rfl rfl rfl
    · exact calm _ _ (.kept rfl rfl rfl) rfl rfl rfl (List.nil_subset _) rfl rfl
  · cases resumed
    exact goesOn _ rfl rfl rfl
  · cases resumed
    split
    · exact calm _ _ (.kept rfl rfl rfl) rfl rfl rfl (List.nil_subset _) rfl rfl
    · exact goesOn _ rfl rfl rfl
  · split at resumed <;> rename_i token <;> cases resumed
    · exact calm _ _ (.kept rfl rfl rfl) rfl rfl rfl (List.nil_subset _) rfl rfl
    -- The mutation is sent with whatever token the client has.
    · rw [Bool.not_eq_true, Option.isNone_eq_false_iff] at token
      refine .of_proceed (.kept rfl rfl rfl) rfl ⟨?_, ?_, ?_, locks_of_calm rfl rfl, ?_⟩ nofun
        fun _ => .sends owner input _ token
      · rintro _ ⟨⟩ id among
        exact .inl among
      · rintro _ ⟨⟩ id ⟨⟩
      · rintro _ ⟨⟩ _ id ⟨⟩
      · rintro _ ⟨⟩
        rfl
  · cases resumed
    split
    · exact calm _ _ (.kept rfl rfl rfl) rfl rfl rfl same rfl rfl
    · exact calm _ _ (.kept rfl rfl rfl) rfl rfl rfl same rfl rfl
    · split
      · exact calm _ _ (.kept rfl rfl rfl) rfl rfl rfl same rfl rfl
      · exact calm _ _ (.kept rfl rfl rfl) rfl rfl rfl (List.nil_subset _) rfl rfl
    · exact calm _ _ (.kept rfl rfl rfl) rfl rfl rfl (List.nil_subset _) rfl rfl
    · exact calm _ _ (.kept rfl rfl rfl) rfl rfl rfl (List.nil_subset _) rfl rfl
  · cases resumed
    split
    · split
      · exact calm _ _ (.kept rfl rfl rfl) rfl rfl rfl (List.nil_subset _) rfl rfl
      · exact calm _ _ (.kept rfl rfl rfl) rfl rfl rfl same rfl rfl
    · exact calm _ _ (.kept rfl rfl rfl) rfl rfl rfl (List.nil_subset _) rfl rfl
  · cases resumed
    split
    -- A 401 in the installed state begins the dispose.
    · exact .of_quiet (.kept rfl rfl rfl) rfl rfl rfl (List.nil_subset _) rfl
        (fun _ => ⟨_, rfl, rfl⟩) nofun
    · rename_i lost
      refine calm _ _ (.kept rfl rfl rfl) rfl rfl rfl (List.nil_subset _) rfl ?_
      rw [FreshRun.failureOf, if_neg lost]
  · cases resumed
    exact calm _ _ (.kept rfl rfl rfl) rfl rfl rfl (List.nil_subset _) rfl rfl
  · cases resumed

theorem resume_freshMove {confirmApiOrigin : String → Option String}
    {sealPayload : SealRequest → Option Wire.Bytes} (plain : old.plain = true)
    (resumed : vault.resume confirmApiOrigin sealPayload t now old answer = some next) :
    FreshMove vault t now old answer next := by
  unfold VaultManager.resume at resumed
  split at resumed
  · cases resumed
    exact resumeDispose_freshMove confirmApiOrigin plain
  · cases resumed
  · exact resumeUnlock_freshMove resumed
  · exact resumeLogout_freshMove resumed
  · rename_i purpose
    cases resumed
    obtain ⟨refused, none⟩ := checkedFresh_false purpose
    split
    · exact .calm (.kept rfl rfl rfl) rfl rfl rfl (none ▸ List.nil_subset _) refused rfl rfl rfl
    · rename_i owner held
      refine .of_proceed (.kept rfl rfl rfl) rfl ⟨?_, ?_, ?_, locks_of_calm rfl rfl, ?_⟩ nofun ?_
      · rintro _ ⟨⟩ id among
        obtain rfl | among := List.mem_cons.mp among
        · refine .inr ?_
          simp [FreshRun.holdsId, held]
        · exact .inl among
      · rintro _ ⟨⟩ id ⟨⟩
      · rintro _ ⟨⟩ _ id ⟨⟩
      · rintro _ ⟨⟩
        rfl
      · intro releasing
        rw [releasing_proceed rfl rfl] at releasing
        cases releasing
  · cases resumed
  · exact resumeFresh_freshMove resumed
  · exact resumeTotp_freshMove resumed
  · exact resumeSave_freshMove resumed

end Moves

namespace FreshRun

/-- What is installed has been heard of when the manager says, or later; a method that has passed
its check in the installed state has a fresh check; a thread clears what it has seen fail. -/
structure Invariant (run : FreshRun) : Prop where
  stamp : run.vault.lastFreshCheckAt ≤ run.clock
  exchanged : ∀ state ∈ run.vault.state, run.heardAt run.vault.lastFreshCheckAt state.id
  numbered : ∀ state ∈ run.vault.state, state.id ≤ run.vault.installs
  read : ∀ t, ∀ stage ∈ run.vault.tasks t, ∀ id ∈ stage.ids, id ≤ run.vault.installs
  failed : ∀ id ∈ run.failedStates, id ≤ run.vault.installs
  plain : ∀ t, ∀ stage ∈ run.vault.tasks t, stage.plain = true
  checked : ∀ t, ∀ stage ∈ run.vault.tasks t, ∀ id ∈ stage.passed,
    holdsId run.vault id = true → ∃ check ∈ run.checks t, check.Fresh id
  clearing : ∀ entry ∈ run.locking, ∃ stage ∈ run.vault.tasks entry.1, stage.clears = true
  locked : ∀ state ∈ run.vault.state, state.id ∈ run.failedStates →
    ∃ t, (t, state.id) ∈ run.locking
  fresh : ∀ release ∈ run.releases, release.Fresh

section Invariant

variable {run : FreshRun} {next : VaultManager} {t now : Nat} {old : Stage} {answer : Answer}

theorem invariant_initial : Invariant {} where
  stamp := Nat.le_refl 0
  exchanged := by rintro _ ⟨⟩
  numbered := by rintro _ ⟨⟩
  read := by rintro _ _ ⟨⟩
  failed := by rintro _ ⟨⟩
  plain := by rintro _ _ ⟨⟩
  checked := by rintro _ _ ⟨⟩
  clearing := by rintro _ ⟨⟩
  locked := by rintro _ ⟨⟩
  fresh := by rintro _ ⟨⟩

theorem Invariant.guarded (invariant : run.Invariant) : run.Guarded := by
  refine ⟨invariant.fresh, fun state there failed => ?_⟩
  obtain ⟨t, locking⟩ := invariant.locked state there failed
  exact ⟨t, locking, invariant.clearing _ locking⟩

theorem passed_mem_ids {stage : Stage} {id : Nat} (passed : id ∈ stage.passed) :
    id ∈ stage.ids := by
  unfold Stage.passed at passed
  split at passed <;> cases passed <;> exact List.mem_singleton_self _

theorem heardAt_advance {time id : Nat} (heard : run.heardAt time id) (past : time ≤ now) :
    (run.advance t now old answer next).heardAt time id := by
  obtain ⟨exchangedAt, found, bound⟩ := heard
  cases exchanged : run.exchangeOf t next old answer with
  | none =>
      simp only [heardAt, advance, exchangesAfter, exchanged]
      exact ⟨exchangedAt, found, bound⟩
  | some other =>
      simp only [heardAt, advance, exchangesAfter, exchanged]
      by_cases same : id = other
      · subst same
        rw [Function.update_self]
        exact ⟨now, rfl, past⟩
      · rw [Function.update_of_ne same]
        exact ⟨exchangedAt, found, bound⟩

theorem heardAt_exchanged {id : Nat} (exchanged : run.exchangeOf t next old answer = some id) :
    (run.advance t now old answer next).heardAt now id := by
  simp only [heardAt, advance, exchangesAfter, exchanged, Function.update_self]
  exact ⟨now, rfl, Nat.le_refl _⟩

theorem Invariant.exchanges (invariant : run.Invariant) (here : run.vault.tasks t = some old)
    (later : run.clock ≤ now) (inTime : run.inTime (.resume t now answer))
    (change : StateChange run.vault now old answer next) :
    ∀ state ∈ next.state,
      (run.advance t now old answer next).heardAt next.lastFreshCheckAt state.id := by
  intro state there
  have past := Nat.le_trans invariant.stamp later
  have intime := inTime old here
  cases change with
  | kept _ stamp same =>
      rw [same] at there
      rw [stamp]
      exact heardAt_advance (invariant.exchanged state there) past
  | cleared _ _ nothing =>
      rw [nothing] at there
      cases there
  | forgotten _ stamp same =>
      rw [same] at there
      -- A stamp of 0 claims nothing.
      obtain ⟨exchangedAt, found, -⟩ := invariant.exchanged state there
      rw [stamp]
      exact heardAt_advance ⟨exchangedAt, found, Nat.zero_le _⟩ (Nat.zero_le _)
  | stamped is _ stamp same =>
      rw [same] at there
      rw [stamp]
      unfold Stage.stamps at is
      split at is
      · exact heardAt_advance (intime state there) (Nat.le_refl _)
      · cases is
  | unlocked accountId is done _ stamp same =>
      subst is done
      rw [same] at there
      rw [stamp]
      -- The end of an unlock is an exchange of the state it has installed.
      obtain mine | heard := intime state there
      · exact heardAt_exchanged mine
      · exact heardAt_advance heard (Nat.le_refl _)
  | installed accountId session bundle keySession items new is done installs stamp held mine =>
      subst is done
      rw [held] at there
      cases there
      rw [mine, ← installs, stamp]
      have exchanged : run.exchangeOf t next
          (.unlocking accountId (.installing session bundle keySession items)) .done =
            some next.installs := rfl
      obtain ⟨exchangedAt, found, bound⟩ := @heardAt_exchanged run next t now _ _ _ exchanged
      exact ⟨exchangedAt, found, Nat.le_trans past bound⟩

theorem Invariant.checks (invariant : run.Invariant) (here : run.vault.tasks t = some old)
    (later : run.clock ≤ now) (inTime : run.inTime (.resume t now answer))
    (move : FreshMove run.vault t now old answer next) :
    ∀ other, ∀ stage ∈ next.tasks other, ∀ id ∈ stage.passed, holdsId next id = true →
      ∃ check ∈ (run.advance t now old answer next).checks other, check.Fresh id := by
  intro other stage there id passed held
  by_cases same : other = t
  · subst same
    -- A state that the thread has read is not installed anew.
    have known : id ≤ run.vault.installs := by
      obtain before | holds := move.reached.ids stage there id (passed_mem_ids passed)
      · exact invariant.read other old here id before
      · obtain ⟨state, installed, rfl⟩ := state_of_holdsId holds
        exact invariant.numbered state installed
    have holds := move.change.holdsId_before known held
    rw [Option.mem_def] at there
    cases passing : stage.passing with
    | none =>
        have before := move.reached.goesOn stage there passing id passed
        simp only [advance, there, Option.bind_some, passing]
        exact invariant.checked other old here id before holds
    | some mine =>
        have is : mine = id := by
          unfold Stage.passing at passing
          unfold Stage.passed at passed
          split at passing <;> cases passing <;> cases passed <;> rfl
        subst is
        obtain ⟨state, installed, is⟩ := state_of_holdsId holds
        have heard : ∃ exchangedAt ∈ run.exchangesAfter other now next old answer mine,
            now ≤ exchangedAt + freshWindowMs := by
          obtain recent | stamps := move.reached.passes stage there mine passing
          -- What is installed was heard of at the stamp or later.
          · have past := Nat.le_trans invariant.stamp later
            have heard : (run.advance other now old answer next).heardAt
                run.vault.lastFreshCheckAt state.id :=
              heardAt_advance (invariant.exchanged state installed) past
            rw [is] at heard
            obtain ⟨exchangedAt, found, bound⟩ := heard
            exact ⟨exchangedAt, found, by omega⟩
          · -- The stamp is as late as the exchange, so the check is too.
            have intime := inTime old here
            have before : run.heardAt now state.id := by
              unfold Stage.stamps at stamps
              split at stamps
              · exact intime state installed
              · cases stamps
            have heard : (run.advance other now old answer next).heardAt now state.id :=
              heardAt_advance before (Nat.le_refl _)
            rw [is] at heard
            obtain ⟨exchangedAt, found, bound⟩ := heard
            exact ⟨exchangedAt, found, by omega⟩
        obtain ⟨exchangedAt, found, bound⟩ := heard
        simp only [advance, there, Option.bind_some, passing, Function.update_self]
        exact ⟨_, rfl, rfl, holds, exchangedAt, found, bound⟩
  · rw [move.tasks other same] at there
    -- The checks of the other threads stay.
    have known := invariant.read other stage there id (passed_mem_ids passed)
    have holds := move.change.holdsId_before known held
    have before := invariant.checked other stage there id passed holds
    cases passing : (next.tasks t).bind Stage.passing with
    | none =>
        simp only [advance, passing]
        exact before
    | some mine =>
        simp only [advance, passing, Function.update_of_ne same]
        exact before

theorem Invariant.clears (invariant : run.Invariant) (here : run.vault.tasks t = some old)
    (move : FreshMove run.vault t now old answer next) :
    ∀ entry ∈ (run.advance t now old answer next).locking,
      ∃ stage ∈ next.tasks entry.1, stage.clears = true := by
  intro entry among
  simp only [advance, List.mem_append, Option.mem_toList, Option.map_eq_some_iff] at among
  obtain ⟨id, failed, rfl⟩ | before := among
  -- The thread that has just seen the failure begins its dispose.
  · exact move.reached.locks (.inl (Option.isSome_iff_exists.mpr ⟨id, failed⟩))
  · by_cases mine : entry.1 = t
    · rw [mine]
      by_cases clearing : old.isClearing = true
      -- Its clearing removes its own entries.
      · rw [if_pos clearing, List.mem_filter, decide_eq_true_eq] at before
        exact absurd mine before.2
      · rw [if_neg clearing] at before
        obtain ⟨stage, there, clears⟩ := invariant.clearing entry before
        rw [mine, here] at there
        cases there
        exact move.reached.locks (.inr ⟨clears, by simpa using clearing⟩)
    · rw [move.tasks entry.1 mine]
      refine invariant.clearing entry ?_
      split at before
      · exact (List.mem_filter.mp before).1
      · exact before

theorem Invariant.locks (invariant : run.Invariant)
    (move : FreshMove run.vault t now old answer next) :
    ∀ state ∈ next.state, state.id ∈ (run.advance t now old answer next).failedStates →
      ∃ thread, (thread, state.id) ∈ (run.advance t now old answer next).locking := by
  intro state there failed
  simp only [advance, List.mem_append, Option.mem_toList, Option.map_eq_some_iff] at failed ⊢
  obtain now_ | before := failed
  · exact ⟨t, .inl ⟨state.id, now_, rfl⟩⟩
  · have known := invariant.failed state.id before
    obtain held | ⟨new, -⟩ := move.change.state_of there
    · obtain ⟨thread, locking⟩ := invariant.locked state held before
      refine ⟨thread, .inr ?_⟩
      rw [if_neg]
      · exact locking
      -- A clearing that drops an entry leaves no state installed.
      · intro clearing
        rw [move.clearing clearing] at there
        cases there
    · omega

theorem Invariant.failures (invariant : run.Invariant)
    (move : FreshMove run.vault t now old answer next) :
    ∀ id ∈ (run.advance t now old answer next).failedStates, id ≤ next.installs := by
  intro id among
  have grows := move.change.installs_le
  simp only [advance, List.mem_append, Option.mem_toList] at among
  obtain failed | before := among
  · have holds : holdsId run.vault id = true := by
      unfold failureOf at failed
      split at failed
      · split at failed <;> cases failed
        assumption
      · split at failed <;> cases failed
        assumption
      · cases failed
    obtain ⟨state, installed, rfl⟩ := state_of_holdsId holds
    exact Nat.le_trans (invariant.numbered state installed) grows
  · exact Nat.le_trans (invariant.failed id before) grows

theorem held_of_releasing (here : run.vault.tasks t = some old)
    (inTime : run.inTime (.resume t now answer)) (releasing : Releasing run.vault old answer) :
    ∃ owner, old.passed = some owner ∧ holdsId run.vault owner = true ∧
      run.unfailed owner := by
  have intime := inTime old here
  cases releasing with
  | sends owner input mutation token =>
      obtain ⟨held, unfailed⟩ := intime token
      exact ⟨owner.id, rfl, held, unfailed⟩
  | returns owner itemId code held => exact ⟨owner.id, rfl, held, intime held⟩

theorem Invariant.releasesFresh (invariant : run.Invariant) (here : run.vault.tasks t = some old)
    (inTime : run.inTime (.resume t now answer))
    (move : FreshMove run.vault t now old answer next) :
    ∀ release ∈ (run.advance t now old answer next).releases, release.Fresh := by
  intro release among
  simp only [advance] at among
  split at among
  · rename_i released
    rw [List.mem_append, List.mem_singleton] at among
    obtain before | rfl := among
    · exact invariant.fresh release before
    · obtain ⟨owner, passed, held, unfailed⟩ :=
        held_of_releasing here inTime (move.releases released)
      have checked := invariant.checked t old here owner passed held
      refine ⟨?_, ?_, owner, passed, checked⟩
      · rw [passed]
        exact held
      · rw [passed, ← Bool.not_eq_true]
        intro contained
        have failed : owner ∈ run.failedStates := List.contains_iff_mem.mp contained
        obtain ⟨state, installed, rfl⟩ := state_of_holdsId held
        obtain ⟨thread, locking⟩ := invariant.locked state installed failed
        exact unfailed _ locking rfl
  · exact invariant.fresh release among

theorem Invariant.advance (invariant : run.Invariant) (here : run.vault.tasks t = some old)
    (later : run.clock ≤ now) (inTime : run.inTime (.resume t now answer))
    (move : FreshMove run.vault t now old answer next) :
    (run.advance t now old answer next).Invariant where
  stamp := move.change.stamp_le (Nat.le_trans invariant.stamp later)
  exchanged := invariant.exchanges here later inTime move.change
  numbered := by
    intro state there
    have grows := move.change.installs_le
    obtain held | ⟨mine, installs⟩ := move.change.state_of there
    · exact Nat.le_trans (invariant.numbered state held) grows
    · exact (mine.trans installs.symm).le
  read := by
    intro other stage there id among
    have grows := move.change.installs_le
    refine Nat.le_trans ?_ grows
    by_cases same : other = t
    · subst same
      obtain before | holds := move.reached.ids stage there id among
      · exact invariant.read other old here id before
      · obtain ⟨state, installed, rfl⟩ := state_of_holdsId holds
        exact invariant.numbered state installed
    · have before : stage ∈ run.vault.tasks other := move.tasks other same ▸ there
      exact invariant.read other stage before id among
  failed := invariant.failures move
  plain := by
    intro other stage there
    by_cases same : other = t
    · subst same
      exact move.reached.plain stage there
    · have before : stage ∈ run.vault.tasks other := move.tasks other same ▸ there
      exact invariant.plain other stage before
  checked := invariant.checks here later inTime move
  clearing := invariant.clears here move
  locked := invariant.locks move
  fresh := invariant.releasesFresh here inTime move

theorem call_quiet (vault : VaultManager) (call : Call) :
    (vault.call call).quiet = true ∧
      ∀ id ∈ (vault.call call).ids, holdsId vault id = true := by
  have mine {owner : UnlockedState} (held : vault.state = some owner) :
      holdsId vault owner.id = true := holdsId_of_state held
  cases call with
  | unlock | lock => exact ⟨rfl, nofun⟩
  | logout =>
      unfold VaultManager.call
      cases vault.state <;> exact ⟨rfl, nofun⟩
  | checkFresh =>
      unfold VaultManager.call
      cases held : vault.state with
      | none => exact ⟨rfl, nofun⟩
      | some owner =>
          refine ⟨rfl, fun id among => ?_⟩
          obtain rfl := List.mem_singleton.mp among
          exact mine held
  | getTotp itemId =>
      unfold VaultManager.call
      cases held : vault.state with
      | none => exact ⟨rfl, nofun⟩
      | some owner =>
          refine ⟨rfl, fun id among => ?_⟩
          obtain rfl := List.mem_singleton.mp among
          exact mine held
  | saveItem input =>
      unfold VaultManager.call
      cases held : vault.state with
      | none => exact ⟨rfl, nofun⟩
      | some owner =>
          dsimp only
          split
          · exact ⟨rfl, nofun⟩
          · refine ⟨rfl, fun id among => ?_⟩
            obtain rfl := List.mem_singleton.mp among
            exact mine held

theorem Invariant.call (invariant : run.Invariant) (free : run.vault.tasks t = none)
    {progress : Progress} (quiet : progress.quiet = true)
    (ids : ∀ id ∈ progress.ids, holdsId run.vault id = true) :
    Invariant { run with vault := run.vault.proceed t progress } := by
  have unchanged : (run.vault.proceed t progress).state = run.vault.state ∧
      (run.vault.proceed t progress).installs = run.vault.installs ∧
      (run.vault.proceed t progress).lastFreshCheckAt = run.vault.lastFreshCheckAt ∧
      (run.vault.proceed t progress).tasks = Function.update run.vault.tasks t progress.stage := by
    cases progress <;> exact ⟨rfl, rfl, rfl, rfl⟩
  obtain ⟨state, installs, stamp, tasks⟩ := unchanged
  have holds (id : Nat) : holdsId (run.vault.proceed t progress) id = holdsId run.vault id := by
    rw [holdsId, state, holdsId]
  unfold Progress.quiet at quiet
  rw [Bool.and_eq_true, Option.all_eq_true] at quiet
  have there {other : Nat} {stage : Stage}
      (found : stage ∈ (run.vault.proceed t progress).tasks other) :
      other = t ∧ stage ∈ progress.stage ∨ other ≠ t ∧ stage ∈ run.vault.tasks other := by
    rw [tasks] at found
    by_cases same : other = t
    · subst same
      rw [Function.update_self] at found
      exact .inl ⟨rfl, found⟩
    · rw [Function.update_of_ne same] at found
      exact .inr ⟨same, found⟩
  have calm {stage : Stage} (found : stage ∈ progress.stage) :
      stage.plain = true ∧ stage.passed = none := by
    have all := quiet.2 stage found
    simp only [Stage.quiet, Bool.and_eq_true, Option.isNone_iff_eq_none] at all
    exact all.1
  constructor
  case stamp =>
    rw [stamp]
    exact invariant.stamp
  case exchanged =>
    rw [state, stamp]
    exact invariant.exchanged
  case numbered =>
    rw [state, installs]
    exact invariant.numbered
  case read =>
    intro other stage found id among
    rw [installs]
    obtain ⟨-, found⟩ | ⟨-, found⟩ := there found
    · have read : id ∈ progress.ids := by
        rw [Progress.ids, Option.mem_def.mp found]
        exact among
      obtain ⟨state, installed, rfl⟩ := state_of_holdsId (ids id read)
      exact invariant.numbered state installed
    · exact invariant.read other stage found id among
  case failed =>
    rw [installs]
    exact invariant.failed
  case plain =>
    intro other stage found
    obtain ⟨-, found⟩ | ⟨-, found⟩ := there found
    · exact (calm found).1
    · exact invariant.plain other stage found
  case checked =>
    intro other stage found id passed held
    rw [holds] at held
    obtain ⟨-, found⟩ | ⟨-, found⟩ := there found
    · rw [(calm found).2] at passed
      cases passed
    · exact invariant.checked other stage found id passed held
  case clearing =>
    intro entry among
    obtain ⟨stage, found, clears⟩ := invariant.clearing entry among
    refine ⟨stage, ?_, clears⟩
    -- A thread that is about to clear is in no position to call.
    have different : entry.1 ≠ t := by
      rintro same
      rw [same, free] at found
      cases found
    rw [tasks, Function.update_of_ne different]
    exact found
  case locked =>
    rw [state]
    exact invariant.locked
  case fresh => exact invariant.fresh

variable {confirmApiOrigin : String → Option String}
  {sealPayload : SealRequest → Option Wire.Bytes}

theorem Invariant.step (invariant : run.Invariant) {action : Action} {after : FreshRun}
    (inTime : run.inTime action)
    (stepped : run.step confirmApiOrigin sealPayload action = some after) :
    after.Invariant := by
  cases action with
  | call t call =>
      simp only [FreshRun.step, VaultManager.step, Option.map_eq_some_iff] at stepped
      obtain ⟨next, called, rfl⟩ := stepped
      split at called <;> cases called
      rename_i free
      obtain ⟨quiet, ids⟩ := call_quiet run.vault call
      exact invariant.call free quiet ids
  | resume t now answer =>
      simp only [FreshRun.step] at stepped
      split at stepped
      · rename_i later
        simp only [VaultManager.step, Option.bind_eq_some_iff, Option.map_eq_some_iff] at stepped
        obtain ⟨old, here, next, ⟨same, also, resumed⟩, rfl⟩ := stepped
        rw [here] at also
        cases also
        exact invariant.advance here later inTime
          (resume_freshMove (invariant.plain t old here) resumed)
      · cases stepped

theorem always_guarded_of_inTime {actions : List Action}
    (every : Every (step confirmApiOrigin sealPayload) inTime {} actions) :
    Always (step confirmApiOrigin sealPayload) Guarded {} actions :=
  always_of_every (fun _ _ _ invariant inTime stepped => Invariant.step invariant inTime stepped)
    (fun _ invariant => invariant.guarded) invariant_initial every

end Invariant

end FreshRun

end ZenPass.Android
