import ZenPass.Extension.LockCompleteness
import ZenPass.Lib.Overtaken

set_option autoImplicit false

namespace ZenPass.Extension

open Client KeyedStore Transition

namespace HandlerTask

def unlockStage (task : HandlerTask) : Option UnlockStage :=
  match task.stage with
  | some (.unlocking _ stage) => some stage
  | _ => none

def host (task : HandlerTask) : Option Nat := task.unlockStage.bind UnlockStage.host

def opened (task : HandlerTask) : Bool := task.host.isSome || task.installed

end HandlerTask

namespace Background

structure LockedDown (background : Background) : Prop where
  locked : background.session.active = false
  nothing : background.vault.state = none
  closed : background.vault.liveHosts = []

def unlocks (parseOrigin : String → Option ParsedOrigin)
    (confirmApiOrigin : String → Option String) (sealPayload : SealRequest → Option Wire.Bytes) :
    Overtakable Background BackgroundAction where
  step := Background.step parseOrigin confirmApiOrigin sealPayload
  initial := {}
  inFlight := unlockInFlight
  ended background := ¬ background.unlockInFlight
  overtakes background _ next := next.session.generation ≠ background.session.generation
  requests
    | .popup _ _ true (some (.unlock _ _ _)) => True
    | _ => False

/-- No unlock fails once it has opened its key session, and none replaces a state that is
installed. -/
def keepsSessions (background : Background) : BackgroundAction → Prop
  | .resume t _ (.vault answer) =>
      ∀ task ∈ background.tasks t, ∀ stage ∈ task.unlockStage,
        (stage.host.isSome = true → stage.fails answer = false) ∧
        (stage.completes answer = true → background.vault.state = none)
  | _ => True

/-- No unlock in flight holds a key session or has installed its state, and a lock that does not
dispose of the vault finds it empty. -/
def overtakesAll (background : Background) (action : BackgroundAction) : Prop :=
  (∀ t task, background.tasks t = some task → task.opened = false) ∧
  match action with
  | .content now _ _ => background.session.expired now = true → background.vault.state = none
  | .popup _ now trusted message =>
      background.session.expired now = true → clears true trusted message = false →
        background.vault.state = none
  | .resume t _ _ =>
      ∀ task ∈ background.tasks t, HandlerTask.endsLogout task = true →
        background.vault.state = none
  | _ => True

def opensNothing (background : Background) : BackgroundAction → Prop
  | .resume t _ (.vault answer) =>
      ∀ task ∈ background.tasks t, ∀ stage ∈ task.unlockStage, stage.opens answer = false
  | _ => True

def Hosted (vault : VaultManager) (tasks : Nat → Option HandlerTask) : Prop :=
  ∀ host ∈ vault.liveHosts,
    (∃ state, vault.state = some state ∧ state.host = host) ∨
      ∃ t task, tasks t = some task ∧ task.host = some host

section Hosted

variable {vault next : VaultManager} {tasks : Nat → Option HandlerTask} {t : Nat}

theorem hosted_initial : Hosted {} fun _ => none := by
  intro host live
  cases live

theorem Hosted.dispose (hosted : Hosted vault tasks) : Hosted vault.dispose tasks := by
  intro host live
  unfold VaultManager.dispose at live
  dsimp only at live
  split at live
  · rename_i none
    obtain ⟨state, held, -⟩ | task := hosted host live
    · rw [none] at held
      cases held
    · exact .inr task
  · rename_i state held
    rw [List.mem_filter, decide_eq_true_eq] at live
    obtain ⟨other, there, same⟩ | task := hosted host live.1
    · rw [held, Option.some.injEq] at there
      exact absurd (there ▸ same).symm live.2
    · exact .inr task

theorem Hosted.retask (hosted : Hosted vault tasks) (task : Option HandlerTask)
    (holds : ∀ old host, tasks t = some old → old.host = some host →
      ∃ new, task = some new ∧ new.host = some host) :
    Hosted vault (Function.update tasks t task) := by
  intro host live
  obtain state | ⟨other, old, there, mine⟩ := hosted host live
  · exact .inl state
  · refine .inr ?_
    by_cases same : other = t
    · subst same
      obtain ⟨new, rfl, kept⟩ := holds old host there mine
      exact ⟨other, new, Function.update_self _ _ _, kept⟩
    · exact ⟨other, old, by rwa [Function.update_of_ne same], mine⟩

theorem Hosted.touch (hosted : Hosted vault tasks) (liveHosts : next.liveHosts = vault.liveHosts)
    (same : next.state.map (fun state => (state.id, state.host)) =
      vault.state.map fun state => (state.id, state.host)) : Hosted next tasks := by
  intro host live
  rw [liveHosts] at live
  obtain ⟨state, held, mine⟩ | task := hosted host live
  · rw [held, Option.map_some, Option.map_eq_some_iff] at same
    obtain ⟨other, there, same⟩ := same
    exact .inl ⟨other, there, (Prod.mk.inj same).2.trans mine⟩
  · exact .inr task

theorem Hosted.open (hosted : Hosted vault tasks) {new : HandlerTask} {host : Nat}
    (liveHosts : next.liveHosts = host :: vault.liveHosts) (state : next.state = vault.state)
    (mine : new.host = some host)
    (plain : ∀ old, tasks t = some old → old.host = none) :
    Hosted next (Function.update tasks t (some new)) := by
  intro other live
  rw [liveHosts, List.mem_cons] at live
  obtain rfl | live := live
  · exact .inr ⟨t, new, Function.update_self _ _ _, mine⟩
  · have kept : Hosted vault (Function.update tasks t (some new)) := by
      refine hosted.retask (some new) fun old host there holds => ?_
      rw [plain old there] at holds
      cases holds
    rw [state]
    exact kept other live

theorem Hosted.install (hosted : Hosted vault tasks) {old new : HandlerTask} {host : Nat}
    {state : Unlocked} (liveHosts : next.liveHosts = vault.liveHosts) (empty : vault.state = none)
    (held : next.state = some state) (mine : state.host = host) (there : tasks t = some old)
    (holds : old.host = some host) : Hosted next (Function.update tasks t (some new)) := by
  intro other live
  rw [liveHosts] at live
  obtain ⟨_, there, -⟩ | ⟨task, found, among, same⟩ := hosted other live
  · rw [empty] at there
    cases there
  · by_cases is : task = t
    · subst is
      rw [there, Option.some.injEq] at among
      rw [← among, holds, Option.some.injEq] at same
      exact .inl ⟨state, held, mine.trans same⟩
    · exact .inr ⟨task, found, by rwa [Function.update_of_ne is], same⟩

end Hosted

def HostsHeld (background : Background) : Prop := Hosted background.vault background.tasks

section Held

variable {background next : Background} {t now : Nat}
  {parseOrigin : String → Option ParsedOrigin}
  {confirmApiOrigin : String → Option String} {sealPayload : SealRequest → Option Wire.Bytes}

theorem host_eq_none_of_ended {task : HandlerTask} (ended : task.ended = true) :
    task.host = none := by
  obtain ⟨handler, stage⟩ := task
  unfold HandlerTask.host HandlerTask.unlockStage
  dsimp only
  split
  · cases ended
  · rfl

theorem host_eq_none_of_isUnlock {handler : Handler} {stage : VaultStage}
    (other : stage.isUnlock = false) : HandlerTask.host ⟨handler, some stage⟩ = none := by
  cases stage with
  | unlocking => cases other
  | _ => rfl

theorem Hosted.advance {handler : Handler} {progress : VaultProgress}
    (hosted : Hosted progress.vault background.tasks)
    (holds : ∀ old host, background.tasks t = some old → old.host = some host →
      HandlerTask.host ⟨handler, some progress.stage⟩ = some host) :
    (background.advance t handler progress).HostsHeld := by
  have retasked (vault : VaultManager) (hosted : Hosted vault background.tasks) :=
    hosted.retask (t := t) (some ⟨handler, some progress.stage⟩) fun old host there holding =>
      ⟨_, rfl, holds old host there holding⟩
  unfold Background.advance
  dsimp only
  split
  · exact retasked _ hosted.dispose
  · exact retasked _ hosted

theorem Hosted.advancePlain {handler : Handler} {progress : VaultProgress}
    (hosted : Hosted progress.vault background.tasks)
    (plain : ∀ old, background.tasks t = some old → old.host = none) :
    (background.advance t handler progress).HostsHeld := by
  refine hosted.advance fun old host there holds => ?_
  rw [plain old there] at holds
  cases holds

theorem Hosted.retaskPlain {vault : VaultManager} {tasks : Nat → Option HandlerTask}
    (hosted : Hosted vault tasks) (task : Option HandlerTask)
    (plain : ∀ old, tasks t = some old → old.host = none) :
    Hosted vault (Function.update tasks t task) := by
  refine hosted.retask task fun old host there holds => ?_
  rw [plain old there] at holds
  cases holds

theorem HostsHeld.advanceQuiet (held : background.HostsHeld) {handler : Handler}
    {progress : VaultProgress} (quiet : progress.Quiet background.vault)
    (plain : ∀ old, background.tasks t = some old → old.host = none) :
    (background.advance t handler progress).HostsHeld :=
  (Hosted.touch held quiet.same.liveHosts quiet.same.state).advancePlain plain

theorem Hosted.startUnlock (hosted : Hosted background.vault background.tasks)
    (fresh : background.tasks t = none) (accountId apiOrigin : String) :
    (background.startUnlock confirmApiOrigin t accountId apiOrigin).HostsHeld := by
  have plain (started : Background) (same : started.tasks = background.tasks) :
      ∀ old, started.tasks t = some old → old.host = none := by
    intro old there
    rw [same, fresh] at there
    cases there
  unfold Background.startUnlock
  dsimp only
  split
  · refine Hosted.advancePlain ?_ (plain _ rfl)
    exact hosted.dispose.dispose
  · exact hosted.dispose.advancePlain (plain _ rfl)

theorem HostsHeld.popup (held : background.HostsHeld) (fresh : background.tasks t = none)
    (effect : PopupEffect confirmApiOrigin background t next) : next.HostsHeld := by
  have hosted : Hosted background.vault background.tasks := held
  have plain : ∀ old, background.tasks t = some old → old.host = none := by
    intro old there
    rw [fresh] at there
    cases there
  cases effect with
  | answered => exact hosted.retaskPlain _ plain
  | locked => exact hosted.dispose.retaskPlain _ plain
  | readsAccount => exact hosted.retaskPlain _ plain
  | selected => exact hosted.retaskPlain _ plain
  | called _ _ _ _ quiet => exact held.advanceQuiet quiet plain
  | loggingOut =>
      unfold VaultManager.logout
      split
      · exact hosted.advancePlain plain
      · exact hosted.dispose.advancePlain plain
  | unlocking => exact hosted.startUnlock fresh _ _

theorem HostsHeld.resumeVault (held : background.HostsHeld) {handler : Handler}
    {stage : VaultStage} {answer : VaultAnswer} {progress : VaultProgress}
    (there : background.tasks t = some ⟨handler, some stage⟩)
    (resumed : background.vault.resume parseOrigin sealPayload now stage answer = some progress)
    (keeps : background.keepsSessions (.resume t now (.vault answer))) :
    (background.advance t handler progress).HostsHeld := by
  have hosted : Hosted background.vault background.tasks := held
  have plain (none : HandlerTask.host ⟨handler, some stage⟩ = none) :
      ∀ old, background.tasks t = some old → old.host = .none := by
    intro old here
    rw [there, Option.some.injEq] at here
    exact here ▸ none
  cases VaultManager.resume_cases resumed with
  | unlockGoesOn accountId before after _ same =>
      refine hosted.advance fun old host here holds => ?_
      rw [there, Option.some.injEq] at here
      subst here
      exact same.trans holds
  | unlockRefused accountId stage _ noHost => exact hosted.advancePlain (plain noHost)
  | unlockFailed accountId stage _ fails =>
      refine hosted.dispose.advancePlain (plain ?_)
      by_contra holding
      have kept := (keeps _ there stage rfl).1 (Option.isSome_iff_ne_none.mpr holding)
      rw [fails] at kept
      cases kept
  | opened => exact hosted.open rfl rfl rfl (plain rfl)
  | installed accountId stage _ now session bundle host keySession items mine completes =>
      exact hosted.install rfl ((keeps _ there stage rfl).2 completes) rfl rfl there mine
  | loggedOut => exact hosted.dispose.advancePlain (plain rfl)
  | touched _ _ _ other quiet =>
      exact held.advanceQuiet quiet (plain (host_eq_none_of_isUnlock other))
  | authFailed _ _ _ other =>
      exact hosted.dispose.advancePlain (plain (host_eq_none_of_isUnlock other))

theorem HostsHeld.resume (held : background.HostsHeld) {task : HandlerTask}
    {answer : BackgroundAnswer} (there : background.tasks t = some task)
    (effect : ResumeEffect parseOrigin sealPayload background t now task answer next)
    (keeps : background.keepsSessions (.resume t now answer)) : next.HostsHeld := by
  have hosted : Hosted background.vault background.tasks := held
  have plain (none : task.host = none) :
      ∀ old, background.tasks t = some old → old.host = .none := by
    intro old here
    rw [there, Option.some.injEq] at here
    exact here ▸ none
  cases effect with
  | vault stage answer progress mine running resumed =>
      obtain ⟨handler, _⟩ := task
      subst mine
      exact held.resumeVault there resumed keeps
  | answered _ _ ended => exact hosted.retaskPlain _ (plain (host_eq_none_of_ended ended))
  | unlocked _ _ _ is => exact hosted.retaskPlain _ (plain (is ▸ rfl))
  | loggedOut _ is => exact hosted.retaskPlain _ (plain (is ▸ rfl))
  | granted _ _ _ is => exact hosted.retaskPlain _ (plain (is ▸ rfl))
  | filled _ _ _ is => exact hosted.retaskPlain _ (plain (is ▸ rfl))
  | refused _ _ _ _ _ is => exact hosted.retaskPlain _ (plain (is ▸ rfl))
  | consumed requestId itemId offer is =>
      refine HostsHeld.advanceQuiet ?_ (VaultManager.fieldsFor_quiet now itemId offer.origin)
        (plain (is ▸ rfl))
      exact held
  | sent _ _ is =>
      unfold Background.resumeSending
      dsimp only
      split
      · exact hosted.dispose.retaskPlain _ (plain (is ▸ rfl))
      · exact hosted.retaskPlain _ (plain (is ▸ rfl))
  | readAccount _ is => exact hosted.retaskPlain _ (plain (is ▸ rfl))

theorem HostsHeld.step (held : background.HostsHeld) {action : BackgroundAction}
    (keeps : background.keepsSessions action)
    (stepped : background.step parseOrigin confirmApiOrigin sealPayload action = some next) :
    next.HostsHeld := by
  cases action with
  | lock =>
      cases stepped
      exact Hosted.dispose held
  | popupClosed =>
      cases stepped
      exact Hosted.dispose held
  | content now sender message =>
      cases stepped
      have effect : ContentEffect parseOrigin _ _ := content_cases background now sender message
      unfold HostsHeld
      rw [effect.vault, effect.tasks]
      exact held
  | popup t now trusted message =>
      simp only [Background.step] at stepped
      split at stepped
      · cases stepped
      · rename_i fresh
        cases stepped
        obtain ⟨noted, effect⟩ := popup_cases trusted message
        have checked : (background.checked now noted).HostsHeld := held
        exact checked.popup fresh effect
  | resume t now answer =>
      simp only [Background.step, Option.bind_eq_some_iff] at stepped
      obtain ⟨task, there, resumed⟩ := stepped
      exact held.resume there (resume_cases resumed) keeps

end Held

structure Down (active : Bool) (vault : VaultManager) (tasks : Nat → Option HandlerTask) : Prop where
  locked : active = false
  nothing : vault.state = none
  unopened : ∀ t task, tasks t = some task → task.opened = false

def IsDown (background : Background) : Prop :=
  Down background.session.active background.vault background.tasks

section Down

variable {background next : Background} {t now : Nat}
  {parseOrigin : String → Option ParsedOrigin}
  {confirmApiOrigin : String → Option String} {sealPayload : SealRequest → Option Wire.Bytes}
  {active : Bool} {vault : VaultManager} {tasks : Nat → Option HandlerTask}

theorem Down.retask (down : Down active vault tasks) (task : Option HandlerTask)
    (unopened : ∀ new, task = some new → new.opened = false) :
    Down active vault (Function.update tasks t task) where
  locked := down.locked
  nothing := down.nothing
  unopened other new there := by
    by_cases same : other = t
    · subst same
      rw [Function.update_self] at there
      exact unopened new there
    · rw [Function.update_of_ne same] at there
      exact down.unopened other new there

theorem Down.end (down : Down active vault tasks) :
    Down active vault (Function.update tasks t none) := by
  refine down.retask none ?_
  rintro _ ⟨⟩

theorem IsDown.suspend (down : background.IsDown) {handler : Handler}
    {stage : Option VaultStage} (unopened : HandlerTask.opened ⟨handler, stage⟩ = false) :
    (background.suspend t handler stage).IsDown := by
  refine Down.retask down (some ⟨handler, stage⟩) ?_
  rintro _ ⟨⟩
  exact unopened

theorem opened_of_isUnlock {handler : Handler} {stage : VaultStage}
    (other : stage.isUnlock = false) : HandlerTask.opened ⟨handler, some stage⟩ = false := by
  cases stage with
  | unlocking => cases other
  | returned result =>
      cases result with
      | unlocked => cases other
      | _ => rfl
  | _ => rfl

theorem isDown_lock (unopened : ∀ t task, background.tasks t = some task → task.opened = false)
    (reason : LockReason) : (background.lockFor reason).IsDown := ⟨rfl, rfl, unopened⟩

theorem IsDown.advance (down : background.IsDown) {handler : Handler}
    {progress : VaultProgress} (nothing : progress.vault.state = none)
    (unopened : HandlerTask.opened ⟨handler, some progress.stage⟩ = false) :
    (background.advance t handler progress).IsDown := by
  unfold Background.advance
  dsimp only
  split
  · refine IsDown.suspend ?_ unopened
    exact ⟨rfl, rfl, down.unopened⟩
  · have stepped : IsDown { background with
        vault := progress.vault
        uploads := background.uploads ++ progress.uploaded.toList } :=
      ⟨down.locked, nothing, down.unopened⟩
    exact stepped.suspend unopened

theorem IsDown.advanceQuiet (down : background.IsDown) {handler : Handler}
    {progress : VaultProgress} (quiet : progress.Quiet background.vault) :
    (background.advance t handler progress).IsDown := by
  refine down.advance ?_ (opened_of_isUnlock quiet.stays)
  have same := quiet.same.state
  rwa [down.nothing, Option.map_none, Option.map_eq_none_iff] at same

theorem opened_unlock (accountId apiOrigin : String) (handler : Handler) :
    HandlerTask.opened ⟨handler,
      some (vault.unlock confirmApiOrigin accountId apiOrigin).stage⟩ = false := by
  unfold VaultManager.unlock
  dsimp only
  split <;> rfl

theorem isDown_startUnlock
    (unopened : ∀ t task, background.tasks t = some task → task.opened = false)
    (accountId apiOrigin : String) :
    (background.startUnlock confirmApiOrigin t accountId apiOrigin).IsDown := by
  unfold Background.startUnlock
  dsimp only
  split
  · exact (isDown_lock unopened .explicit).advance rfl (opened_unlock _ _ _)
  · rename_i inactive
    rw [Bool.not_eq_true] at inactive
    have disposed : Down background.session.active background.vault.dispose background.tasks :=
      ⟨inactive, rfl, unopened⟩
    refine disposed.retask _ ?_
    rintro _ ⟨⟩
    exact opened_unlock _ _ _

theorem IsDown.popup (down : background.IsDown)
    (effect : PopupEffect confirmApiOrigin background t next) : next.IsDown := by
  cases effect with
  | answered => exact Down.end down
  | locked => exact Down.end (isDown_lock down.unopened .explicit)
  | readsAccount => exact down.suspend rfl
  | selected _ _ _ active =>
      rw [down.locked] at active
      cases active
  | called _ _ active =>
      rw [down.locked] at active
      cases active
  | loggingOut =>
      unfold VaultManager.logout
      split
      · exact down.advance down.nothing rfl
      · exact down.advance rfl rfl
  | unlocking => exact isDown_startUnlock down.unopened _ _

theorem IsDown.resume (down : background.IsDown) {task : HandlerTask} {answer : BackgroundAnswer}
    (there : background.tasks t = some task)
    (effect : ResumeEffect parseOrigin sealPayload background t now task answer next)
    (opens : background.opensNothing (.resume t now answer)) : next.IsDown := by
  have unopened := down.unopened t task there
  cases effect with
  | vault stage answer progress mine running resumed =>
      obtain ⟨handler, _⟩ := task
      subst mine
      cases VaultManager.resume_cases resumed with
      | unlockGoesOn accountId before after _ same =>
          refine down.advance down.nothing ?_
          unfold HandlerTask.opened HandlerTask.host HandlerTask.unlockStage at unopened ⊢
          dsimp only [Option.bind_some] at unopened ⊢
          rwa [same]
      | unlockRefused => exact down.advance down.nothing rfl
      | unlockFailed => exact down.advance rfl rfl
      | opened =>
          have nothing := opens _ there _ rfl
          cases nothing
      | installed accountId stage _ now session bundle host keySession items mine =>
          unfold HandlerTask.opened HandlerTask.host HandlerTask.unlockStage at unopened
          dsimp only [Option.bind_some] at unopened
          rw [mine] at unopened
          cases unopened
      | loggedOut => exact down.advance rfl rfl
      | touched _ _ _ _ quiet => exact down.advanceQuiet quiet
      | authFailed _ _ _ _ stays => exact down.advance rfl (opened_of_isUnlock stays)
  | answered => exact Down.end down
  | unlocked _ _ _ is =>
      subst is
      cases unopened
  | loggedOut => exact Down.end ⟨rfl, down.nothing, down.unopened⟩
  | granted _ _ _ _ active =>
      rw [down.locked] at active
      cases active
  | filled => exact Down.retask down _ (by rintro _ ⟨⟩; rfl)
  | refused => exact Down.end down
  | consumed _ _ _ _ active =>
      rw [down.locked] at active
      cases active
  | sent =>
      unfold Background.resumeSending
      dsimp only
      split
      · exact Down.end (isDown_lock down.unopened .explicit)
      · exact Down.end down
  | readAccount => exact Down.end down

theorem IsDown.checked (down : background.IsDown) (now : Nat) (noted : Bool) :
    (background.checked now noted).IsDown := by
  have same : (background.checked now noted).session = background.session := by
    unfold Background.checked SessionStateMachine.ensureActive SessionStateMachine.expired
      SessionStateMachine.noteTrustedPopupActivity
    simp [down.locked]
  unfold IsDown
  rw [same]
  exact down

theorem IsDown.step (down : background.IsDown) {action : BackgroundAction}
    (opens : background.opensNothing action)
    (stepped : background.step parseOrigin confirmApiOrigin sealPayload action = some next) :
    next.IsDown := by
  cases action with
  | lock =>
      cases stepped
      exact isDown_lock down.unopened _
  | popupClosed =>
      cases stepped
      exact isDown_lock down.unopened _
  | content now sender message =>
      cases stepped
      have effect : ContentEffect parseOrigin _ _ := content_cases background now sender message
      unfold IsDown
      rw [effect.session, effect.vault, effect.tasks]
      exact down.checked now false
  | popup t now trusted message =>
      simp only [Background.step] at stepped
      split at stepped <;> cases stepped
      obtain ⟨noted, effect⟩ := popup_cases trusted message
      exact (down.checked now noted).popup effect
  | resume t now answer =>
      simp only [Background.step, Option.bind_eq_some_iff] at stepped
      obtain ⟨task, there, resumed⟩ := stepped
      exact down.resume there (resume_cases resumed) opens

theorem isDown_checked (unopened : ∀ t task, background.tasks t = some task → task.opened = false)
    (expired : background.session.expired now = true) (nothing : background.vault.state = none)
    (noted : Bool) : (background.checked now noted).IsDown :=
  ⟨checked_active_of_expired noted expired, nothing, unopened⟩

theorem checked_generation (expired : background.session.expired now = false) (noted : Bool) :
    (background.checked now noted).session.generation = background.session.generation := by
  unfold Background.checked SessionStateMachine.ensureActive
  rw [expired, if_neg Bool.false_ne_true]
  cases noted with
  | false => rfl
  | true =>
      unfold SessionStateMachine.noteTrustedPopupActivity
      dsimp only
      rw [if_pos rfl]
      split <;> rfl

theorem PopupEffect.isDown_of_generation
    (unopened : ∀ t task, background.tasks t = some task → task.opened = false)
    (effect : PopupEffect confirmApiOrigin background t next)
    (locked : next.session.generation ≠ background.session.generation) : next.IsDown := by
  cases effect with
  | answered => exact absurd rfl locked
  | locked => exact Down.end (isDown_lock unopened .explicit)
  | readsAccount => exact absurd rfl locked
  | selected => exact absurd rfl locked
  | called _ _ _ _ quiet =>
      refine absurd ?_ locked
      unfold Background.advance
      rw [quiet.quiet]
      rfl
  | loggingOut =>
      refine absurd ?_ locked
      unfold VaultManager.logout
      split <;> rfl
  | unlocking => exact isDown_startUnlock unopened _ _

theorem popup_isDown (unopened : ∀ t task, background.tasks t = some task → task.opened = false)
    {trusted : Bool} {message : Option ValidatedPopupMessage}
    (nothing : background.session.expired now = true → clears true trusted message = false →
      background.vault.state = none)
    (locked : (background.handlePopupMessage confirmApiOrigin t now trusted
      message).session.generation ≠ background.session.generation) :
    (background.handlePopupMessage confirmApiOrigin t now trusted message).IsDown := by
  by_cases clear : clears true trusted message = true
  · unfold clears at clear
    split at clear
    · subst clear
      exact Down.end ⟨rfl, rfl, unopened⟩
    · simp only [Bool.and_true] at clear
      subst clear
      have checked : ∀ t task, (background.checked now true).tasks t = some task →
          task.opened = false := unopened
      exact isDown_startUnlock checked _ _
    · cases clear
  · rw [Bool.not_eq_true] at clear
    obtain ⟨noted, effect⟩ := popup_cases (t := t) trusted message
    by_cases expired : background.session.expired now = true
    · exact (isDown_checked unopened expired (nothing expired clear) noted).popup effect
    · rw [Bool.not_eq_true] at expired
      rw [← checked_generation expired noted] at locked
      have checked : ∀ t task, (background.checked now noted).tasks t = some task →
          task.opened = false := unopened
      exact effect.isDown_of_generation checked locked

theorem ResumeEffect.isDown_of_generation
    (unopened : ∀ t task, background.tasks t = some task → task.opened = false)
    {task : HandlerTask} {answer : BackgroundAnswer}
    (effect : ResumeEffect parseOrigin sealPayload background t now task answer next)
    (logout : HandlerTask.endsLogout task = true → background.vault.state = none)
    (locked : next.session.generation ≠ background.session.generation) : next.IsDown := by
  cases effect with
  | vault stage answer progress mine running resumed =>
      have quiet (stays : progress.authFailed = false) :
          (background.advance t task.handler progress).session = background.session := by
        unfold Background.advance
        rw [stays]
        rfl
      cases VaultManager.resume_cases resumed with
      | authFailed _ _ _ _ stays =>
          refine IsDown.suspend ?_ (opened_of_isUnlock stays)
          exact ⟨rfl, rfl, unopened⟩
      | touched _ _ _ _ same => exact absurd (congrArg _ (quiet same.quiet)) locked
      | _ => exact absurd (congrArg _ (quiet rfl)) locked
  | answered => exact absurd rfl locked
  | unlocked =>
      refine absurd ?_ locked
      unfold SessionStateMachine.markUnlocked
      dsimp only [Background.suspend]
      split <;> rfl
  | loggedOut _ is =>
      subst is
      exact Down.end ⟨rfl, logout rfl, unopened⟩
  | granted => exact absurd rfl locked
  | filled => exact absurd rfl locked
  | refused => exact absurd rfl locked
  | consumed requestId itemId offer =>
      refine absurd ?_ locked
      have quiet : (background.vault.fieldsFor now itemId offer.origin).Quiet background.vault :=
        VaultManager.fieldsFor_quiet now itemId offer.origin
      unfold Background.advance
      rw [quiet.quiet]
      rfl
  | sent =>
      unfold Background.resumeSending at locked ⊢
      dsimp only at locked ⊢
      split at locked
      · rename_i stale
        rw [if_pos stale]
        exact Down.end ⟨rfl, rfl, unopened⟩
      · exact absurd rfl locked
  | readAccount => exact absurd rfl locked

theorem isDown_of_overtakes {action : BackgroundAction} (overtakes : background.overtakesAll action)
    (locked : next.session.generation ≠ background.session.generation)
    (stepped : background.step parseOrigin confirmApiOrigin sealPayload action = some next) :
    next.IsDown := by
  obtain ⟨unopened, nothing⟩ := overtakes
  cases action with
  | lock =>
      cases stepped
      exact isDown_lock unopened _
  | popupClosed =>
      cases stepped
      exact isDown_lock unopened _
  | content now sender message =>
      cases stepped
      have effect : ContentEffect parseOrigin _ _ := content_cases background now sender message
      by_cases expired : background.session.expired now = true
      · unfold IsDown
        rw [effect.session, effect.vault, effect.tasks]
        exact isDown_checked unopened expired (nothing expired) false
      · rw [Bool.not_eq_true] at expired
        rw [effect.session, checked_generation expired] at locked
        exact absurd rfl locked
  | popup t now trusted message =>
      simp only [Background.step] at stepped
      split at stepped <;> cases stepped
      exact popup_isDown unopened nothing locked
  | resume t now answer =>
      simp only [Background.step, Option.bind_eq_some_iff] at stepped
      obtain ⟨task, there, resumed⟩ := stepped
      exact (resume_cases resumed).isDown_of_generation unopened (nothing task there) locked

end Down

/-- Where a lock finds no key session and no unlock opens one after it, the lock wins. -/
theorem lockedDown_of_meets {parseOrigin : String → Option ParsedOrigin}
    {confirmApiOrigin : String → Option String} {sealPayload : SealRequest → Option Wire.Bytes}
    (overtaken : OvertakenRun (unlocks parseOrigin confirmApiOrigin sealPayload))
    (met : overtaken.Meets keepsSessions overtakesAll opensNothing) :
    overtaken.final.LockedDown := by
  obtain ⟨held, down⟩ := overtaken.settled HostsHeld IsDown met hosted_initial
    (fun _ _ _ held keeps stepped => held.step keeps stepped)
    (fun _ _ _ _ locked overtakes stepped => isDown_of_overtakes overtakes locked stepped)
    (fun _ _ _ down opens stepped => down.step opens stepped)
  refine ⟨down.locked, down.nothing, ?_⟩
  rw [List.eq_nil_iff_forall_not_mem]
  intro host live
  obtain ⟨state, there, -⟩ | ⟨t, task, there, holds⟩ := held host live
  · rw [down.nothing] at there
    cases there
  · have unopened := down.unopened t task there
    unfold HandlerTask.opened at unopened
    rw [holds] at unopened
    cases unopened

end Background

end ZenPass.Extension
