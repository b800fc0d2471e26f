import ZenPass.Android.LockWins
import ZenPass.Extension.LockWins

set_option autoImplicit false

namespace ZenPass.Client

open Extension Transition

section BothClients

variable (parseOrigin : String → Option ParsedOrigin)
  (confirmApiOrigin : String → Option String) (sealPayload : SealRequest → Option Wire.Bytes)

/-- After a lock that overtakes every unlock in flight, the unlocks that cannot open a key session
any more leave nothing behind. -/
theorem lock_wins :
    (∀ overtaken : OvertakenRun (Background.unlocks parseOrigin confirmApiOrigin sealPayload),
      overtaken.Meets Background.keepsSessions Background.overtakesAll Background.opensNothing →
        overtaken.final.LockedDown) ∧
    (∀ overtaken : OvertakenRun (Android.VaultManager.unlocks confirmApiOrigin sealPayload),
      overtaken.Meets Android.VaultManager.keepsSessions Android.VaultManager.overtakesAll
        Android.VaultManager.opensNothing → overtaken.final.LockedDown) :=
  ⟨fun overtaken met => Background.lockedDown_of_meets overtaken met,
    fun overtaken met => Android.VaultManager.lockedDown_of_meets overtaken met⟩

end BothClients

section Samples

def extensionUnlocks : Overtakable Background BackgroundAction :=
  Background.unlocks (fun url => some ⟨"https:", url, "443"⟩) some fun _ => some [1, 2, 3]

theorem extension_inFlight {background : Background} {t : Nat}
    (unlocking : (background.tasks t).any (fun task => task.handler.isUnlock) = true) :
    background.unlockInFlight := by
  rw [Option.any_eq_true] at unlocking
  obtain ⟨task, there, mine⟩ := unlocking
  exact ⟨t, task, there, mine⟩

def extensionLoginFails : OvertakenRun extensionUnlocks :=
  .ofActions extensionUnlocks
    [.popup 1 0 true (some (.unlock "account" "https://api.test" [1])),
      .resume 1 0 (.vault .done)] .lock
    [.resume 1 0 (.vault .failed), .resume 1 0 (.returned "")]
    (by decide +kernel) (extension_inFlight (t := 1) (by decide +kernel))
    (by change _ ≠ _; decide +kernel)
    (by simp [extensionUnlocks, Background.unlocks])
    (Background.idle_of_done (run_reached (by decide +kernel)) (by decide +kernel))

def extensionLoadsOn : OvertakenRun extensionUnlocks :=
  .ofActions extensionUnlocks
    [.popup 1 0 true (some (.unlock "account" "https://api.test" [1])),
      .resume 1 0 (.vault .done), .resume 1 0 (.vault (.session ⟨"token", none⟩)),
      .resume 1 0 (.vault .done),
      .resume 1 0 (.vault (.keyBundle (some (some ⟨"account", "vault"⟩)))),
      .resume 1 0 (.vault (.backend (some 7)))] .lock
    [.resume 1 0 (.vault (.changes ⟨[], none⟩)), .resume 1 0 (.returned ""),
      .resume 1 0 .accountStored]
    (by decide +kernel) (extension_inFlight (t := 1) (by decide +kernel))
    (by change _ ≠ _; decide +kernel)
    (by simp [extensionUnlocks, Background.unlocks])
    (Background.idle_of_done (run_reached (by decide +kernel)) (by decide +kernel))

def androidUnlocks : Overtakable Android.VaultManager Android.Action :=
  Android.VaultManager.unlocks some fun _ => some [1, 2, 3]

theorem android_inFlight {vault : Android.VaultManager} {t : Nat}
    (unlocking : (vault.tasks t).any Android.Stage.unlocks = true) :
    ∃ t stage, vault.tasks t = some stage ∧ stage.unlocks = true := by
  rw [Option.any_eq_true] at unlocking
  obtain ⟨stage, there, mine⟩ := unlocking
  exact ⟨t, stage, there, mine⟩

theorem android_ended {actions : List Android.Action} {final : Android.VaultManager}
    (ran : run androidUnlocks.step {} actions = some final)
    (done : ∀ action ∈ actions,
      (final.tasks (Android.VaultManager.threadOf action)).isNone = true) :
    androidUnlocks.ended final := by
  intro t stage there
  obtain ⟨action, among, rfl⟩ := Android.VaultManager.started_of_task ran there
  have none := done action among
  rw [there] at none
  cases none

def androidLoginFails : OvertakenRun androidUnlocks :=
  .ofActions androidUnlocks
    [.call 1 (.unlock "account" "https://api.test"), .resume 1 0 .done, .resume 1 0 .done]
    (.call 2 .lock)
    [.resume 2 0 .done, .resume 2 0 .done, .resume 1 0 .failed, .resume 1 0 .done,
      .resume 1 0 .done, .resume 1 0 .done]
    (by decide +kernel) (android_inFlight (t := 1) (by decide +kernel)) trivial
    (by simp [androidUnlocks, Android.VaultManager.unlocks])
    (android_ended (run_reached (by decide +kernel)) (by decide +kernel))

def androidLoadsOn : OvertakenRun androidUnlocks :=
  .ofActions androidUnlocks
    [.call 1 (.unlock "account" "https://api.test"), .resume 1 0 .done, .resume 1 0 .done,
      .resume 1 0 .message, .resume 1 0 (.session ⟨"token", none⟩), .resume 1 0 .done,
      .resume 1 0 (.keyBundle (some (some ⟨"account", "vault"⟩))), .resume 1 0 .opened]
    (.call 2 .lock)
    [.resume 2 0 .done, .resume 2 0 .done, .resume 1 0 (.changes ⟨[], none⟩),
      .resume 1 0 .done, .resume 1 0 .done]
    (by decide +kernel) (android_inFlight (t := 1) (by decide +kernel)) trivial
    (by simp [androidUnlocks, Android.VaultManager.unlocks])
    (android_ended (run_reached (by decide +kernel)) (by decide +kernel))

instance (background : Background) (action : BackgroundAction) :
    Decidable (background.keepsSessions action) := by
  unfold Background.keepsSessions
  split <;> infer_instance

instance (background : Background) (action : BackgroundAction) :
    Decidable (background.opensNothing action) := by
  unfold Background.opensNothing
  split <;> infer_instance

theorem extensionLoginFails_meets :
    extensionLoginFails.Meets Background.keepsSessions Background.overtakesAll
      Background.opensNothing where
  before := by decide +kernel
  there := trivial
  after := by decide +kernel
  overtaker := by
    refine ⟨fun t task there => ?_, trivial⟩
    obtain ⟨action, among, mine⟩ := Background.started_of_task extensionLoginFails.reaches there
    have unopened : ∀ action ∈ extensionLoginFails.before, ∀ t ∈ Background.taskOf action,
        (extensionLoginFails.pending.tasks t).all (fun task => !task.opened) = true := by
      decide +kernel
    have mine := unopened action among t mine
    rw [there] at mine
    simpa using mine
  later := by decide +kernel

def holdsNothing (vault : Android.VaultManager) (action : Android.Action) : Prop :=
  vault.state.isNone = true ∧
    ∀ stage ∈ vault.tasks (Android.VaultManager.threadOf action), stage.opened = false

instance (vault : Android.VaultManager) (action : Android.Action) :
    Decidable (holdsNothing vault action) := by
  unfold holdsNothing
  infer_instance

theorem keepsSessions_of_holdsNothing (vault : Android.VaultManager) (action : Android.Action)
    (nothing : holdsNothing vault action) : vault.keepsSessions action := by
  obtain ⟨empty, unopened⟩ := nothing
  rw [Option.isNone_iff_eq_none] at empty
  cases action with
  | call => trivial
  | resume t now answer =>
      intro stage there
      have closed := unopened stage there
      split
      · cases closed
      · split
        · cases closed
        · trivial
      · intro state held
        rw [empty] at held
        cases held
      · trivial

instance (vault : Android.VaultManager) (action : Android.Action) :
    Decidable (vault.opensNothing action) :=
  match action with
  | .resume t _ answer => inferInstanceAs (Decidable (∀ stage ∈ vault.tasks t, stage.opens answer = false))
  | .call _ _ => inferInstanceAs (Decidable True)

theorem androidLoginFails_meets :
    androidLoginFails.Meets Android.VaultManager.keepsSessions Android.VaultManager.overtakesAll
      Android.VaultManager.opensNothing where
  before := by
    have nothing : Every androidUnlocks.step holdsNothing {} androidLoginFails.before := by
      decide +kernel
    exact nothing.imp keepsSessions_of_holdsNothing
  there := trivial
  after := by
    have nothing : Every androidUnlocks.step holdsNothing androidLoginFails.overtaken
        androidLoginFails.after := by
      decide +kernel
    exact nothing.imp keepsSessions_of_holdsNothing
  overtaker := by
    intro t stage there
    obtain ⟨action, among, rfl⟩ :=
      Android.VaultManager.started_of_task androidLoginFails.reaches there
    have unopened : ∀ action ∈ androidLoginFails.before,
        (androidLoginFails.pending.tasks (Android.VaultManager.threadOf action)).all
          (fun stage => !stage.opened) = true := by
      decide +kernel
    have mine := unopened action among
    rw [there] at mine
    simpa using mine
  later := by decide +kernel

theorem lock_wins_login_fails :
    extensionLoginFails.final.LockedDown ∧ androidLoginFails.final.LockedDown :=
  ⟨(lock_wins _ _ _).1 extensionLoginFails extensionLoginFails_meets,
    (lock_wins (fun _ => none) _ _).2 androidLoginFails androidLoginFails_meets⟩

/-- In both clients a lock while the items are loading comes to nothing: the vault is unlocked
afterwards. -/
theorem lock_during_load_loses :
    (¬ ∀ overtaken : OvertakenRun extensionUnlocks, overtaken.final.LockedDown) ∧
      ¬ ∀ overtaken : OvertakenRun androidUnlocks, overtaken.final.LockedDown := by
  constructor
  · intro always
    have locked := (always extensionLoadsOn).locked
    have active : extensionLoadsOn.final.session.active = true := by decide +kernel
    rw [locked] at active
    cases active
  · intro always
    have locked := (always androidLoadsOn).locked
    have unlocked : androidLoadsOn.final.isUnlocked = true := by decide +kernel
    rw [locked] at unlocked
    cases unlocked

end Samples

end ZenPass.Client
