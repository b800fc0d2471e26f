import ZenPass.Extension.BackgroundSteps

set_option autoImplicit false

namespace ZenPass.Extension

open Client KeyedStore Transition

def Handler.isUnlock : Handler → Bool
  | .unlock _ _ | .savingAccount => true
  | _ => false

namespace Background

def unlockInFlight (background : Background) : Prop :=
  ∃ t task, background.tasks t = some task ∧ task.handler.isUnlock = true

/-- `installs` numbers the unlocked sessions: what is of the last one is usable. -/
structure LockComplete (background : Background) : Prop where
  wiped : background.session.active = false → ¬ background.unlockInFlight →
    background.vault.state = none ∧ background.pendingOffer = none ∧
      background.capabilities = .empty
  offer : ∀ offer, background.pendingOffer = some offer → offer.source = background.vault.installs
  capability : ∀ requestId capability, background.capabilities.get requestId = some capability →
    capability.source = background.vault.installs
  items : ∀ state, background.vault.state = some state → state.id = background.vault.installs

def noOffers (background : Background) : Prop :=
  background.pendingOffer = none ∧ background.capabilities = .empty

def HandlerTask.endsLogout (task : HandlerTask) : Bool :=
  match task.handler, task.stage with
  | .logout, some (.returned .loggedOut) => true
  | _, _ => false

def HandlerTask.completesUnlock (task : HandlerTask) : BackgroundAnswer → Bool
  | .vault answer =>
      match task.stage with
      | some (.unlocking _ stage) => stage.completes answer
      | _ => false
  | _ => false

def clears (unlock trusted : Bool) : Option ValidatedPopupMessage → Bool
  | some .lock => trusted
  | some (.unlock _ _ _) => trusted && unlock
  | _ => false

/-- A timeout is noticed, and a logout locks the session, only when nothing is left that neither
they nor the message clear; an unlock completes only when no offer and no capability is
outstanding. -/
def leavesNothing (background : Background) : BackgroundAction → Prop
  | .content now _ _ =>
      background.session.expired now = true → background.vault.state = none ∧ background.noOffers
  | .popup _ now trusted message =>
      background.session.expired now = true →
        (clears true trusted message = false → background.vault.state = none) ∧
        (clears false trusted message = false → background.noOffers)
  | .resume t _ answer =>
      ∀ task ∈ background.tasks t,
        (HandlerTask.endsLogout task = true → background.session.active = true →
          background.vault.state = none) ∧
        (HandlerTask.completesUnlock task answer = true → background.noOffers)
  | _ => True

def installedUnlock (task : Option HandlerTask) : Prop :=
  ∃ accountId apiOrigin,
    task = some ⟨.unlock accountId apiOrigin, some (.returned (.unlocked true))⟩

/-- An unlock in the vault belongs to the unlock handler; an offer that a handler has captured is
the pending one if it has its identity. -/
structure FitsTask (offers : Nat) (pendingOffer : Option PendingOffer) (task : HandlerTask) :
    Prop where
  unlock : ∀ stage, task.stage = some stage → stage.isUnlock = true →
    ∃ accountId apiOrigin, task.handler = .unlock accountId apiOrigin
  offer : ∀ offer, task.handler = .requestCandidates offer → offer.id ≤ offers ∧
    ∀ pending, pendingOffer = some pending → pending.id = offer.id → pending = offer

theorem fitsTask_plain {offers : Nat} {pendingOffer : Option PendingOffer} (handler : Handler)
    (captured : ∀ offer, handler ≠ .requestCandidates offer) :
    FitsTask offers pendingOffer ⟨handler, none⟩ := by
  refine ⟨?_, fun offer is => absurd is (captured offer)⟩
  rintro _ ⟨⟩

structure Kept (active : Bool) (offers : Nat) (pendingOffer : Option PendingOffer)
    (capabilities : FillCapabilityStore) (vault : VaultManager)
    (tasks : Nat → Option HandlerTask) : Prop where
  locked : active = false → pendingOffer = none ∧ capabilities = .empty
  offer : ∀ offer, pendingOffer = some offer → offer.source = vault.installs ∧ offer.id ≤ offers
  capability : ∀ requestId capability, capabilities.get requestId = some capability →
    capability.source = vault.installs
  items : ∀ state, vault.state = some state → state.id = vault.installs
  installed : active = false → vault.state ≠ none → ∃ t, installedUnlock (tasks t)
  fits : ∀ t task, tasks t = some task → FitsTask offers pendingOffer task

def Sound (background : Background) : Prop :=
  Kept background.session.active background.offers background.pendingOffer background.capabilities
    background.vault background.tasks

theorem sound_initial : Sound {} := by
  constructor <;> simp [InsertionMap.get, InsertionMap.empty]

theorem Sound.lockComplete {background : Background} (sound : background.Sound) :
    background.LockComplete := by
  refine ⟨?_, fun offer pending => (sound.offer offer pending).1, sound.capability, sound.items⟩
  intro locked idle
  refine ⟨?_, sound.locked locked⟩
  by_contra held
  obtain ⟨t, accountId, apiOrigin, unlock⟩ := sound.installed locked held
  exact idle ⟨t, _, unlock, rfl⟩

section Parts

variable {active : Bool} {offers : Nat} {pendingOffer : Option PendingOffer}
  {capabilities : FillCapabilityStore} {vault next : VaultManager}
  {tasks : Nat → Option HandlerTask}

theorem Kept.wipe (kept : Kept active offers pendingOffer capabilities vault tasks) :
    Kept false offers none .empty vault.lock tasks where
  locked _ := ⟨rfl, rfl⟩
  offer := nofun
  capability := by simp [InsertionMap.get, InsertionMap.empty]
  items := nofun
  installed _ held := absurd rfl held
  fits t task there :=
    ⟨(kept.fits t task there).unlock, fun offer captured =>
      ⟨((kept.fits t task there).offer offer captured).1, nofun⟩⟩

theorem Kept.retask (kept : Kept active offers pendingOffer capabilities vault tasks) (t : Nat)
    (task : Option HandlerTask) (fits : ∀ new, task = some new → FitsTask offers pendingOffer new)
    (trace : active = false → vault.state ≠ none → installedUnlock (tasks t) →
      installedUnlock task) :
    Kept active offers pendingOffer capabilities vault (Function.update tasks t task) where
  locked := kept.locked
  offer := kept.offer
  capability := kept.capability
  items := kept.items
  installed locked held := by
    obtain ⟨other, unlock⟩ := kept.installed locked held
    by_cases same : other = t
    · subst same
      exact ⟨other, by simpa using trace locked held unlock⟩
    · exact ⟨other, by simpa [same] using unlock⟩
  fits other new there := by
    by_cases same : other = t
    · subst same
      rw [Function.update_self] at there
      exact fits new there
    · rw [Function.update_of_ne same] at there
      exact kept.fits other new there

theorem Kept.touch (kept : Kept active offers pendingOffer capabilities vault tasks)
    (installs : next.installs = vault.installs)
    (same : next.state.map (fun state => (state.id, state.host)) =
      vault.state.map fun state => (state.id, state.host)) :
    Kept active offers pendingOffer capabilities next tasks where
  locked := kept.locked
  offer := by rw [installs]; exact kept.offer
  capability := by rw [installs]; exact kept.capability
  items state held := by
    rw [held, Option.map_some, eq_comm, Option.map_eq_some_iff] at same
    obtain ⟨old, was, same⟩ := same
    rw [installs, ← kept.items old was]
    exact (Prod.mk.inj same).1.symm
  installed locked held := by
    refine kept.installed locked fun none => held ?_
    rwa [none, Option.map_none, Option.map_eq_none_iff] at same
  fits := kept.fits

theorem Kept.install (kept : Kept active offers none .empty vault tasks) (t : Nat)
    (accountId apiOrigin : String) (next : VaultManager) {state : Unlocked}
    (held : next.state = some state) (id : state.id = next.installs) :
    Kept active offers none .empty next (Function.update tasks t
      (some ⟨.unlock accountId apiOrigin, some (.returned (.unlocked true))⟩)) where
  locked _ := ⟨rfl, rfl⟩
  offer := nofun
  capability := by simp [InsertionMap.get, InsertionMap.empty]
  items other there := by
    rw [held, Option.some.injEq] at there
    exact there ▸ id
  installed _ _ := ⟨t, accountId, apiOrigin, Function.update_self t _ tasks⟩
  fits other task there := by
    by_cases same : other = t
    · subst same
      rw [Function.update_self, Option.some.injEq] at there
      subst there
      exact ⟨fun _ _ _ => ⟨accountId, apiOrigin, rfl⟩, fun _ captured => by cases captured⟩
    · rw [Function.update_of_ne same] at there
      exact kept.fits other task there

theorem Kept.dispose (kept : Kept active offers pendingOffer capabilities vault tasks) :
    Kept active offers pendingOffer capabilities vault.dispose tasks where
  locked := kept.locked
  offer := kept.offer
  capability := kept.capability
  items := nofun
  installed _ held := absurd rfl held
  fits := kept.fits

theorem Kept.activate (kept : Kept active offers pendingOffer capabilities vault tasks) :
    Kept true offers pendingOffer capabilities vault tasks :=
  ⟨nofun, kept.offer, kept.capability, kept.items, nofun, kept.fits⟩

theorem Kept.deactivate (kept : Kept active offers pendingOffer capabilities vault tasks)
    (nothing : vault.state = none) : Kept false offers none .empty vault tasks where
  locked _ := ⟨rfl, rfl⟩
  offer := nofun
  capability := by simp [InsertionMap.get, InsertionMap.empty]
  items := kept.items
  installed _ held := absurd nothing held
  fits t task there :=
    ⟨(kept.fits t task there).unlock, fun offer captured =>
      ⟨((kept.fits t task there).offer offer captured).1, nofun⟩⟩

theorem Kept.withdraw (kept : Kept active offers pendingOffer capabilities vault tasks) :
    Kept active offers none capabilities vault tasks where
  locked locked := ⟨rfl, (kept.locked locked).2⟩
  offer := nofun
  capability := kept.capability
  items := kept.items
  installed := kept.installed
  fits t task there :=
    ⟨(kept.fits t task there).unlock, fun offer captured =>
      ⟨((kept.fits t task there).offer offer captured).1, nofun⟩⟩

theorem Kept.offerNew (kept : Kept true offers pendingOffer capabilities vault tasks)
    (offer : PendingOffer) (source : offer.source = vault.installs) (id : offer.id = offers + 1) :
    Kept true (offers + 1) (some offer) capabilities vault tasks where
  locked := nofun
  offer := by
    rintro _ ⟨⟩
    exact ⟨source, id.le⟩
  capability := kept.capability
  items := kept.items
  installed := kept.installed
  fits t task there := by
    refine ⟨(kept.fits t task there).unlock, fun captured is => ?_⟩
    have bound := ((kept.fits t task there).offer captured is).1
    refine ⟨by omega, ?_⟩
    rintro _ ⟨⟩ same
    omega

theorem Kept.grant (kept : Kept true offers pendingOffer capabilities vault tasks)
    (requestId : String) (capability : FillCapability)
    (source : capability.source = vault.installs) :
    Kept true offers pendingOffer (capabilities.set requestId capability) vault tasks where
  locked := nofun
  offer := kept.offer
  capability := by
    intro other found there
    obtain ⟨-, rfl⟩ | ⟨-, before⟩ := InsertionMap.get_set_cases there
    · exact source
    · exact kept.capability other found before
  items := kept.items
  installed := kept.installed
  fits := kept.fits

theorem Kept.consume (kept : Kept true offers pendingOffer capabilities vault tasks)
    (requestId : String) (binding : Option FillCapabilityBinding) (now : Nat) :
    Kept true offers pendingOffer (capabilities.consume requestId binding now).1 vault tasks where
  locked := nofun
  offer := kept.offer
  capability other found there :=
    kept.capability other found (FillCapabilityStore.get_of_consume there)
  items := kept.items
  installed := kept.installed
  fits := kept.fits

end Parts

section Steps

variable {background : Background} {t : Nat}

theorem Sound.lockFor (sound : background.Sound) (reason : LockReason) :
    (background.lockFor reason).Sound := sound.wipe

theorem Sound.answer (sound : background.Sound) (response : BackgroundToPopup)
    (trace : background.session.active = false → background.vault.state ≠ none →
      ¬ installedUnlock (background.tasks t)) : (background.answer t response).Sound := by
  refine sound.retask t none ?_ fun locked held unlock => absurd unlock (trace locked held)
  rintro _ ⟨⟩

theorem Sound.suspend (sound : background.Sound) (handler : Handler) {stage : Option VaultStage}
    (fits : FitsTask background.offers background.pendingOffer ⟨handler, stage⟩)
    (trace : background.session.active = false → background.vault.state ≠ none →
      ¬ installedUnlock (background.tasks t)) : (background.suspend t handler stage).Sound := by
  refine sound.retask t (some ⟨handler, stage⟩) ?_
    fun locked held unlock => absurd unlock (trace locked held)
  rintro _ ⟨⟩
  exact fits

theorem Sound.advanceQuiet (sound : background.Sound) (handler : Handler)
    {progress : VaultProgress} (quiet : progress.Quiet background.vault)
    (captured : ∀ offer, handler = .requestCandidates offer → offer.id ≤ background.offers ∧
      ∀ pending, background.pendingOffer = some pending → pending.id = offer.id → pending = offer)
    (trace : ¬ installedUnlock (background.tasks t)) :
    (background.advance t handler progress).Sound := by
  rw [advance, quiet.quiet]
  refine Kept.retask (sound.touch quiet.same.installs quiet.same.state) t (some ⟨handler, some progress.stage⟩) ?_
    fun _ _ unlock => absurd unlock trace
  rintro _ ⟨⟩
  refine ⟨?_, captured⟩
  rintro _ ⟨⟩ unlocking
  rw [quiet.stays] at unlocking
  cases unlocking

theorem Sound.ensureActive (sound : background.Sound) (now : Nat)
    (nothing : background.session.expired now = true →
      background.vault.state = none ∧ background.noOffers) :
    Sound { background with session := background.session.ensureActive now } := by
  unfold SessionStateMachine.ensureActive
  split
  · rename_i expired
    obtain ⟨vault, offer, capabilities⟩ := nothing expired
    have left := sound.deactivate vault
    rw [← offer, ← capabilities] at left
    exact left
  · exact sound

theorem Sound.note (sound : background.Sound) (now : Nat) :
    Sound { background with session := background.session.noteTrustedPopupActivity now } := by
  unfold Sound
  rw [SessionStateMachine.noteTrustedPopupActivity_active]
  exact sound

section Handlers

variable {parseOrigin : String → Option ParsedOrigin}
  {confirmApiOrigin : String → Option String} {sealPayload : SealRequest → Option Wire.Bytes}

theorem Sound.checked (sound : background.Sound) (now : Nat) (noted : Bool)
    (nothing : background.session.expired now = true →
      background.vault.state = none ∧ background.noOffers) : (background.checked now noted).Sound := by
  have active := sound.ensureActive now nothing
  cases noted with
  | false => exact active
  | true => exact active.note now

theorem Sound.content (sound : background.Sound) {next : Background}
    (effect : ContentEffect parseOrigin background next) : next.Sound := by
  cases effect with
  | replied => exact sound
  | withdrawn => exact sound.withdraw
  | offered sender request documentId candidates active =>
      have offering := sound
      unfold Sound at offering ⊢
      dsimp only
      rw [active] at offering ⊢
      exact offering.offerNew _ rfl rfl

theorem not_installedUnlock_of_none (fresh : background.tasks t = none) :
    ¬ installedUnlock (background.tasks t) := by
  rintro ⟨accountId, apiOrigin, same⟩
  rw [fresh] at same
  cases same

theorem Sound.startUnlock
    (disposed : Sound { background with vault := background.vault.dispose })
    (fresh : background.tasks t = none) (accountId apiOrigin : String) :
    (background.startUnlock confirmApiOrigin t accountId apiOrigin).Sound := by
  unfold Background.startUnlock
  have begins (started : Background)
      (disposed : Sound { started with vault := started.vault.dispose })
      (fresh : started.tasks t = none) :
      (started.advance t (.unlock accountId apiOrigin)
        (started.vault.unlock confirmApiOrigin accountId apiOrigin)).Sound := by
    refine Kept.retask disposed t (some ⟨.unlock accountId apiOrigin, some _⟩) ?_
      fun _ _ unlock => absurd unlock (not_installedUnlock_of_none fresh)
    rintro _ ⟨⟩
    exact ⟨fun _ _ _ => ⟨accountId, apiOrigin, rfl⟩, fun _ captured => by cases captured⟩
  split
  · exact begins _ (disposed.lockFor .explicit) fresh
  · exact begins _ disposed fresh

theorem Sound.startLogout (sound : background.Sound) (fresh : background.tasks t = none) :
    (background.advance t .logout background.vault.logout).Sound := by
  have begins (vault : VaultManager) (stage : VaultStage) (stays : stage.isUnlock = false)
      (kept : Kept background.session.active background.offers background.pendingOffer
        background.capabilities vault background.tasks) :
      (background.advance t .logout { vault, stage }).Sound := by
    refine Kept.retask kept t (some ⟨.logout, some stage⟩) ?_
      fun _ _ unlock => absurd unlock (not_installedUnlock_of_none fresh)
    rintro _ ⟨⟩
    refine ⟨?_, fun _ captured => by cases captured⟩
    rintro _ ⟨⟩ unlocking
    rw [stays] at unlocking
    cases unlocking
  unfold VaultManager.logout
  split
  · exact begins _ _ rfl sound
  · exact begins _ _ rfl sound.dispose

theorem Sound.popup (sound : background.Sound) (fresh : background.tasks t = none)
    {next : Background} (effect : PopupEffect confirmApiOrigin background t next) :
    next.Sound := by
  have trace := not_installedUnlock_of_none fresh
  cases effect with
  | answered => exact sound.answer _ fun _ _ => trace
  | locked => exact (sound.lockFor .explicit).answer _ fun _ _ => trace
  | readsAccount => exact sound.suspend _ (fitsTask_plain _ nofun) fun _ _ => trace
  | selected => exact sound.suspend _ (fitsTask_plain _ nofun) fun _ _ => trace
  | called handler progress active starts quiet =>
      refine sound.advanceQuiet handler quiet ?_ trace
      rintro offer rfl
      cases starts with
      | requestCandidates _ pending =>
          refine ⟨(sound.offer offer pending).2, ?_⟩
          intro other there _
          rw [pending, Option.some.injEq] at there
          exact there.symm
  | loggingOut => exact sound.startLogout fresh
  | unlocking =>
      have disposed : Sound { background with vault := background.vault.dispose } := sound.dispose
      exact disposed.startUnlock fresh _ _

theorem Sound.popupMessage (sound : background.Sound) (fresh : background.tasks t = none)
    {now : Nat} {trusted : Bool} {message : Option ValidatedPopupMessage}
    (nothing : background.leavesNothing (.popup t now trusted message)) :
    (background.handlePopupMessage confirmApiOrigin t now trusted message).Sound := by
  by_cases clear : clears true trusted message = true
  · -- The message itself clears the vault, whether or not the session has timed out.
    unfold clears at clear
    split at clear
    · subst clear
      have wiped : (background.checked now true).lock.Sound := sound.wipe
      exact wiped.answer _ fun _ _ => not_installedUnlock_of_none fresh
    · rename_i accountId apiOrigin password
      simp only [Bool.and_true] at clear
      subst clear
      have disposed : Sound { background.checked now true with
          vault := (background.checked now true).vault.dispose } := by
        by_cases expired : background.session.expired now = true
        · obtain ⟨offer, capabilities⟩ := (nothing expired).2 rfl
          have left := sound.dispose.deactivate rfl
          rw [← offer, ← capabilities] at left
          change Kept (background.checked now true).session.active _ _ _ _ _
          rw [checked_active_of_expired true expired]
          exact left
        · have active := sound.checked now true fun timeout => absurd timeout expired
          exact active.dispose
      exact disposed.startUnlock fresh _ _
    · cases clear
  · rw [Bool.not_eq_true] at clear
    obtain ⟨noted, effect⟩ := popup_cases (t := t) trusted message
    refine (sound.checked now noted fun expired => ?_).popup fresh effect
    refine ⟨(nothing expired).1 clear, (nothing expired).2 ?_⟩
    revert clear
    unfold clears
    split
    · exact id
    · cases trusted <;> simp
    · exact id

theorem Sound.resumeVault (sound : background.Sound) {now : Nat} {handler : Handler}
    {stage : VaultStage} {answer : VaultAnswer} {progress : VaultProgress}
    (there : background.tasks t = some ⟨handler, some stage⟩)
    (running : ∀ result, stage ≠ .returned result)
    (resumed : background.vault.resume parseOrigin sealPayload now stage answer = some progress)
    (nothing : HandlerTask.completesUnlock ⟨handler, some stage⟩ (.vault answer) = true →
      background.noOffers) : (background.advance t handler progress).Sound := by
  have fits := sound.fits t _ there
  have trace : ¬ installedUnlock (background.tasks t) := by
    rintro ⟨accountId, apiOrigin, same⟩
    rw [there] at same
    cases same
    exact running _ rfl
  have retasked {vault : VaultManager} {next : VaultStage}
      (kept : Kept background.session.active background.offers background.pendingOffer
        background.capabilities vault background.tasks)
      (same : next.isUnlock = stage.isUnlock) :
      (background.advance t handler { vault, stage := next }).Sound := by
    refine Kept.retask kept t (some ⟨handler, some next⟩) ?_ fun _ _ unlock => absurd unlock trace
    rintro _ ⟨⟩
    refine ⟨?_, fits.offer⟩
    rintro _ ⟨⟩ unlocking
    exact fits.unlock stage rfl (same ▸ unlocking)
  cases VaultManager.resume_cases resumed with
  | unlockGoesOn => exact retasked sound rfl
  | unlockRefused => exact retasked sound rfl
  | unlockFailed => exact retasked sound.dispose rfl
  | opened => exact retasked (sound.touch rfl rfl) rfl
  | installed accountId unlockStage _ now session bundle host keySession items mine completes =>
      obtain ⟨offer, capabilities⟩ := nothing completes
      obtain ⟨account, origin, is⟩ := fits.unlock _ rfl rfl
      cases is
      have empty := sound
      unfold Sound at empty ⊢
      rw [offer, capabilities] at empty
      have left := empty.install t account origin
        (background.vault.install now session bundle host keySession items).vault rfl rfl
      rw [← offer, ← capabilities] at left
      exact left
  | loggedOut => exact retasked sound.dispose rfl
  | touched _ _ _ other quiet => exact sound.advanceQuiet handler quiet fits.offer trace
  | authFailed _ next _ other stays =>
      refine Kept.retask sound.dispose.wipe t (some ⟨handler, some next⟩) ?_
        fun _ _ unlock => absurd unlock trace
      rintro _ ⟨⟩
      refine ⟨?_, fun offer is => ⟨(fits.offer offer is).1, nofun⟩⟩
      rintro _ ⟨⟩ unlocking
      rw [stays] at unlocking
      cases unlocking

theorem Sound.grantCandidates (sound : background.Sound) {now : Nat} {requestId : String}
    {offer pending : PendingOffer} {stage : Option VaultStage}
    (there : background.tasks t = some ⟨.requestCandidates offer, stage⟩)
    (active : background.session.active = true) (is : background.pendingOffer = some pending)
    (same : pending.id = offer.id) :
    (background.grantCandidates t now offer requestId).Sound := by
  -- The captured offer is the pending one, and so of the current session.
  have captured : pending = offer :=
    ((sound.fits t _ there).offer offer rfl).2 pending is same
  have granting := sound
  unfold Sound at granting
  rw [active] at granting
  have granted := granting.grant requestId
    { binding :=
        { generation := background.session.generation
          tabId := offer.tabId
          documentId := offer.documentId
          origin := offer.origin
          formActionOrigin := offer.formActionOrigin }
      grantedAt := now
      source := offer.source } (captured ▸ (sound.offer pending is).1)
  rw [← active] at granted
  refine Kept.retask granted t none ?_ ?_
  · rintro _ ⟨⟩
  · intro locked
    rw [active] at locked
    cases locked

theorem Sound.consume (sound : background.Sound) (active : background.session.active = true)
    (requestId : String) (binding : Option FillCapabilityBinding) (now : Nat) :
    Sound { background with
      capabilities := (background.capabilities.consume requestId binding now).1 } := by
  have consuming := sound
  unfold Sound at consuming ⊢
  dsimp only
  rw [active] at consuming ⊢
  exact consuming.consume requestId binding now

theorem Sound.resume (sound : background.Sound) {now : Nat} {task : HandlerTask}
    {answer : BackgroundAnswer} {next : Background} (there : background.tasks t = some task)
    (effect : ResumeEffect parseOrigin sealPayload background t now task answer next)
    (logout : HandlerTask.endsLogout task = true → background.session.active = true →
      background.vault.state = none)
    (completes : HandlerTask.completesUnlock task answer = true → background.noOffers) :
    next.Sound := by
  have noTrace (ended : task.ended = true) : ¬ installedUnlock (background.tasks t) := by
    rintro ⟨accountId, apiOrigin, same⟩
    rw [there, Option.some.injEq] at same
    rw [same] at ended
    cases ended
  cases effect with
  | vault stage answer progress at_ running resumed =>
      obtain ⟨handler, _⟩ := task
      subst at_
      exact sound.resumeVault there running resumed completes
  | answered _ response ended => exact sound.answer _ fun _ _ => noTrace ended
  | unlocked accountId apiOrigin requestId is =>
      -- The session becomes active, so the trace may go.
      have active := sound.activate
      rw [← background.session.markUnlocked_active now] at active
      refine Kept.retask active t (some ⟨.savingAccount, none⟩) ?_ ?_
      · rintro _ ⟨⟩
        exact fitsTask_plain _ nofun
      · intro locked
        rw [SessionStateMachine.markUnlocked_active] at locked
        cases locked
  | loggedOut requestId is =>
      subst is
      have left : Kept false background.offers none .empty background.vault background.tasks := by
        by_cases active : background.session.active = true
        · exact sound.deactivate (logout rfl active)
        · rw [Bool.not_eq_true] at active
          have locked := sound
          unfold Sound at locked
          rwa [active, (sound.locked active).1, (sound.locked active).2] at locked
      refine Kept.retask left t none ?_ fun _ _ unlock => absurd unlock (noTrace rfl)
      rintro _ ⟨⟩
  | granted offer pending requestId is active pendingOffer same =>
      subst is
      exact sound.grantCandidates there active pendingOffer same
  | filled offer fields requestId is =>
      subst is
      have filled : Sound { background with
          fills := background.fills ++
            [FillMessage.mk offer.tabId offer.documentId offer.origin fields] } := sound
      exact filled.suspend _ (fitsTask_plain _ nofun) fun _ _ => noTrace rfl
  | refused requestId itemId offer binding tab is active =>
      subst is
      exact (sound.consume active requestId binding now).answer _ fun _ _ => noTrace rfl
  | consumed requestId itemId offer is active =>
      subst is
      refine (sound.consume active requestId _ now).advanceQuiet _
        (VaultManager.fieldsFor_quiet now itemId offer.origin) ?_ (noTrace rfl)
      rintro _ ⟨⟩
  | sent generation delivered is =>
      subst is
      have done : Sound { background with pendingOffer := none } := sound.withdraw
      unfold Background.resumeSending
      dsimp only
      split
      · exact (done.lockFor .explicit).answer _ fun _ _ => noTrace rfl
      · exact done.answer _ fun _ _ => noTrace rfl
  | readAccount account is =>
      subst is
      have read : Sound { background with savedAccount := some account } := sound
      exact read.answer _ fun _ _ => noTrace rfl

theorem Sound.step (sound : background.Sound) {action : BackgroundAction} {next : Background}
    (nothing : background.leavesNothing action)
    (stepped : background.step parseOrigin confirmApiOrigin sealPayload action = some next) :
    next.Sound := by
  cases action with
  | lock =>
      cases stepped
      exact sound.lockFor _
  | popupClosed =>
      cases stepped
      exact sound.lockFor _
  | content now sender message =>
      cases stepped
      exact (sound.checked now false nothing).content (content_cases background now sender message)
  | popup t now trusted message =>
      simp only [Background.step] at stepped
      split at stepped
      · cases stepped
      · rename_i fresh
        cases stepped
        exact sound.popupMessage fresh nothing
  | resume t now answer =>
      simp only [Background.step, Option.bind_eq_some_iff] at stepped
      obtain ⟨task, there, resumed⟩ := stepped
      obtain ⟨logout, completes⟩ := nothing _ there
      exact sound.resume there (resume_cases resumed) logout completes

/-- In every interleaving that leaves nothing behind, every lock is complete. -/
theorem extension_lock_complete {actions : List BackgroundAction} {final : Background}
    (ran : run (Background.step parseOrigin confirmApiOrigin sealPayload) {} actions = some final)
    (nothing : Every (Background.step parseOrigin confirmApiOrigin sealPayload) leavesNothing {}
      actions) : final.LockComplete := by
  have sound : final.Sound :=
    run_invariant (fun _ _ _ sound nothing stepped => sound.step nothing stepped) sound_initial
      nothing ran
  exact sound.lockComplete

theorem idle_of_done {actions : List BackgroundAction} {final : Background}
    (ran : run (Background.step parseOrigin confirmApiOrigin sealPayload) {} actions = some final)
    (done : ∀ action ∈ actions, ∀ t ∈ taskOf action, (final.tasks t).isNone = true) :
    ¬ final.unlockInFlight := by
  rintro ⟨t, task, there, -⟩
  obtain ⟨action, among, mine⟩ := started_of_task ran there
  have none := done action among t mine
  rw [there] at none
  cases none

end Handlers

end Steps

section Samples

instance (background : Background) : Decidable background.noOffers := by
  unfold noOffers
  infer_instance

instance (background : Background) (action : BackgroundAction) :
    Decidable (background.leavesNothing action) := by
  cases action <;> unfold leavesNothing <;> infer_instance

def sampleStep (background : Background) (action : BackgroundAction) : Option Background :=
  background.step (fun url => some ⟨"https:", url, "443"⟩) some (fun _ => some [1, 2, 3]) action

def sampleSession : ApiSession := ⟨"token", none⟩

def unlockSteps (t now : Nat) : List BackgroundAction :=
  [.popup t now true (some (.unlock "account" "https://api.test" [1])),
    .resume t now (.vault .done), .resume t now (.vault (.session sampleSession)),
    .resume t now (.vault .done),
    .resume t now (.vault (.keyBundle (some (some ⟨"account", "vault"⟩)))),
    .resume t now (.vault (.backend (some 7))), .resume t now (.vault (.changes ⟨[], none⟩))]

def unlocked (rest : List BackgroundAction) : List BackgroundAction :=
  unlockSteps 1 0 ++ [.resume 1 0 (.returned ""), .resume 1 0 .accountStored] ++ rest

theorem extension_lock_complete_unlocked :
    (reached sampleStep {} (unlocked [.lock])).session.generation = 2 ∧
      (reached sampleStep {} (unlocked [.lock])).LockComplete := by
  refine ⟨by decide +kernel, ?_⟩
  have ran : run sampleStep {} (unlocked [.lock]) =
      some (reached sampleStep {} (unlocked [.lock])) := run_reached (by decide +kernel)
  have nothing : Every sampleStep leavesNothing {} (unlocked [.lock]) := by decide +kernel
  exact extension_lock_complete ran nothing

/-- A message after the deadline locks the session, and the vault stays unlocked. -/
theorem timeout_keeps_vault :
    ¬ ∀ (actions : List BackgroundAction) (final : Background),
      run sampleStep {} actions = some final → final.LockComplete := by
  intro always
  have ran : run sampleStep {} (unlocked [.popup 2 300001 true (some .getState)]) = some _ :=
    run_reached (by decide +kernel)
  have complete := always _ _ ran
  have wiped := complete.wiped (by decide +kernel) (idle_of_done ran (by decide +kernel))
  have held : (reached sampleStep {}
      (unlocked [.popup 2 300001 true (some .getState)])).vault.isUnlocked = true := by
    decide +kernel
  rw [VaultManager.isUnlocked, wiped.1] at held
  cases held

end Samples

end Background

end ZenPass.Extension
