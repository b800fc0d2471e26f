import ZenPass.Extension.Background

set_option autoImplicit false

namespace ZenPass.Extension

open Client KeyedStore

def HandlerTask.installed (task : HandlerTask) : Bool :=
  match task.stage with
  | some (.returned (.unlocked ok)) => ok
  | _ => false

def HandlerTask.ended (task : HandlerTask) : Bool :=
  match task.stage with
  | none => true
  | some (.returned (.unlocked ok)) => !ok
  | some (.returned _) => true
  | some _ => false

namespace Background

variable (parseOrigin : String → Option ParsedOrigin)
  (confirmApiOrigin : String → Option String) (sealPayload : SealRequest → Option Wire.Bytes)

def offering (background : Background) (sender : TrustedContentSender) (request : PageRequest)
    (documentId : String) (candidates : List LoginCandidate) : PendingOffer where
  id := background.offers + 1
  tabId := sender.tabId
  origin := sender.origin
  documentId
  formActionOrigin := request.formAction.getD sender.origin
  candidates
  source := background.vault.installs

inductive ContentEffect (background : Background) : Background → Prop where
  | replied : ContentEffect background background
  | withdrawn : ContentEffect background { background with pendingOffer := none }
  | offered (sender : TrustedContentSender) (request : PageRequest) (documentId : String)
      (candidates : List LoginCandidate) (active : background.session.active = true)
      (page : request.pageUrl = sender.url) (document : sender.documentId = some documentId)
      (decided : decideFill parseOrigin request
        (background.vault.candidatesFor parseOrigin sender.origin) = .allowed candidates) :
      ContentEffect background
        { background with
          offers := background.offers + 1
          pendingOffer := some (background.offering sender request documentId candidates) }

inductive Starts (background : Background) : Handler → Prop where
  | listItems : Starts background .listItems
  | getTotp : Starts background .getTotp
  | saveItem : Starts background .saveItem
  | requestCandidates (offer : PendingOffer) (pending : background.pendingOffer = some offer) :
      Starts background (.requestCandidates offer)

inductive PopupEffect (background : Background) (t : Nat) : Background → Prop where
  | answered (response : BackgroundToPopup) :
      PopupEffect background t (background.answer t response)
  | locked (response : BackgroundToPopup) :
      PopupEffect background t (background.lock.answer t response)
  | readsAccount : PopupEffect background t (background.suspend t .getState none)
  | selected (requestId itemId : String) (offer : PendingOffer)
      (active : background.session.active = true) (pending : background.pendingOffer = some offer)
      (among : offer.candidates.any (fun candidate => candidate.id == itemId) = true) :
      PopupEffect background t
        (background.suspend t (.activeTab requestId itemId offer background.session.generation)
          none)
  | called (handler : Handler) (progress : VaultProgress)
      (active : background.session.active = true) (starts : background.Starts handler)
      (quiet : progress.Quiet background.vault) :
      PopupEffect background t (background.advance t handler progress)
  | loggingOut : PopupEffect background t (background.advance t .logout background.vault.logout)
  | unlocking (accountId apiOrigin : String) :
      PopupEffect background t (background.startUnlock confirmApiOrigin t accountId apiOrigin)

inductive ResumeEffect (background : Background) (t now : Nat) (task : HandlerTask) :
    BackgroundAnswer → Background → Prop where
  | vault (stage : VaultStage) (answer : VaultAnswer) (progress : VaultProgress)
      (there : task.stage = some stage) (running : ∀ result, stage ≠ .returned result)
      (resumed :
        background.vault.resume parseOrigin sealPayload now stage answer = some progress) :
      ResumeEffect background t now task (.vault answer)
        (background.advance t task.handler progress)
  | answered (answer : BackgroundAnswer) (response : BackgroundToPopup)
      (ended : task.ended = true) :
      ResumeEffect background t now task answer (background.answer t response)
  | unlocked (accountId apiOrigin requestId : String)
      (is : task = ⟨.unlock accountId apiOrigin, some (.returned (.unlocked true))⟩) :
      ResumeEffect background t now task (.returned requestId)
        ({ background with
            session := background.session.markUnlocked now
            savedAccount := some (some ⟨accountId, apiOrigin⟩) }.suspend t .savingAccount none)
  | loggedOut (requestId : String) (is : task = ⟨.logout, some (.returned .loggedOut)⟩) :
      ResumeEffect background t now task (.returned requestId)
        ({ background with
            session := background.session.lock .explicit
            capabilities := .empty
            pendingOffer := none }.answer t .locked)
  | granted (offer pending : PendingOffer) (requestId : String)
      (is : task = ⟨.requestCandidates offer, some (.returned (.fresh true))⟩)
      (active : background.session.active = true)
      (there : background.pendingOffer = some pending) (same : pending.id = offer.id) :
      ResumeEffect background t now task (.returned requestId)
        (background.grantCandidates t now offer requestId)
  | filled (offer : PendingOffer) (fields : FillFields) (requestId : String)
      (is : task = ⟨.fields offer background.session.generation,
        some (.returned (.fields (some fields)))⟩) :
      ResumeEffect background t now task (.returned requestId)
        ({ background with
            fills := background.fills ++
              [FillMessage.mk offer.tabId offer.documentId offer.origin fields] }.suspend t
          (.sending background.session.generation) none)
  | refused (requestId itemId : String) (offer : PendingOffer)
      (binding : Option FillCapabilityBinding) (tab : Option (Nat × String))
      (is : task = ⟨.activeTab requestId itemId offer background.session.generation, none⟩)
      (active : background.session.active = true) :
      ResumeEffect background t now task (.activeTab tab)
        ({ background with
            capabilities := (background.capabilities.consume requestId binding now).1 }.answer t
          (.refused .staleCapability))
  | consumed (requestId itemId : String) (offer : PendingOffer)
      (is : task = ⟨.activeTab requestId itemId offer background.session.generation, none⟩)
      (active : background.session.active = true)
      (valid : (background.capabilities.consume requestId
        (some
          { generation := background.session.generation
            tabId := offer.tabId
            documentId := offer.documentId
            origin := offer.origin
            formActionOrigin := offer.formActionOrigin }) now).2 = true) :
      ResumeEffect background t now task (.activeTab (some (offer.tabId, offer.origin)))
        ({ background with
            capabilities := (background.capabilities.consume requestId
              (some
                { generation := background.session.generation
                  tabId := offer.tabId
                  documentId := offer.documentId
                  origin := offer.origin
                  formActionOrigin := offer.formActionOrigin }) now).1 }.advance t
          (.fields offer background.session.generation)
          (background.vault.fieldsFor now itemId offer.origin))
  | sent (generation : Nat) (delivered : Bool) (is : task = ⟨.sending generation, none⟩) :
      ResumeEffect background t now task (.sent delivered)
        (background.resumeSending t generation delivered)
  | readAccount (account : Option SavedAccount) (is : task = ⟨.getState, none⟩) :
      ResumeEffect background t now task (.savedAccount account)
        ({ background with savedAccount := some account }.answer t
          (.state (!background.session.active) true account))

def checked (background : Background) (now : Nat) (noted : Bool) : Background :=
  let session := background.session.ensureActive now
  { background with session := if noted then session.noteTrustedPopupActivity now else session }

section Steps

variable {parseOrigin confirmApiOrigin sealPayload} {background next : Background}

theorem checked_active_of_expired {now : Nat} (noted : Bool)
    (expired : background.session.expired now = true) :
    (background.checked now noted).session.active = false := by
  unfold checked SessionStateMachine.ensureActive
  rw [if_pos expired]
  cases noted <;> rfl

theorem content_cases (background : Background) (now : Nat) (sender : Option TrustedContentSender)
    (message : Option ValidatedContentMessage) :
    ContentEffect parseOrigin (background.checked now false)
      (background.handleContentMessage parseOrigin now sender message).1 := by
  unfold handleContentMessage
  dsimp only
  split
  · exact .replied
  · exact .replied
  · split
    · exact .withdrawn
    · exact .replied
  · split
    · exact .replied
    · rename_i active
      simp only [Bool.not_eq_true', Bool.not_eq_false] at active
      split
      · exact .replied
      · rename_i page
        split
        · exact .replied
        · rename_i decided
          split
          · exact .withdrawn
          · rename_i document
            exact .offered _ _ _ _ active (not_not.mp page) document decided

section Popup

variable {t now : Nat}

theorem startGetState_effect :
    PopupEffect confirmApiOrigin background t (background.startGetState t) := by
  unfold startGetState
  split
  · exact .answered _
  · exact .readsAccount

theorem startRequestCandidates_effect :
    PopupEffect confirmApiOrigin background t (background.startRequestCandidates t now) := by
  unfold startRequestCandidates
  split
  · exact .answered _
  · rename_i active
    split
    · exact .answered _
    · rename_i pending
      exact .called _ _ (by simpa using active) (.requestCandidates _ pending)
        (VaultManager.checkFresh_quiet now)

theorem startListItems_effect :
    PopupEffect confirmApiOrigin background t (background.startListItems t now) := by
  unfold startListItems
  split
  · exact .answered _
  · rename_i active
    exact .called _ _ (by simpa using active) .listItems (VaultManager.checkFresh_quiet now)

theorem startGetTotp_effect (itemId : String) :
    PopupEffect confirmApiOrigin background t (background.startGetTotp t now itemId) := by
  unfold startGetTotp
  split
  · exact .answered _
  · rename_i active
    exact .called _ _ (by simpa using active) .getTotp (VaultManager.getTotp_quiet now itemId)

theorem startSaveItem_effect (parsed : SaveItemMessage) :
    PopupEffect confirmApiOrigin background t (background.startSaveItem t now parsed) := by
  unfold startSaveItem
  split
  · exact .answered _
  · rename_i active
    split
    · exact .answered _
    · exact .called _ _ (by simpa using active) .saveItem (VaultManager.saveItem_quiet now _)

theorem startFillSelected_effect (requestId itemId : String) :
    PopupEffect confirmApiOrigin background t
      (background.startFillSelected t requestId itemId) := by
  unfold startFillSelected
  split
  · exact .answered _
  · rename_i active
    split
    · exact .answered _
    · rename_i pending
      split
      · rename_i among
        exact .selected _ _ _ (by simpa using active) pending among
      · exact .answered _

theorem popup_cases (trusted : Bool) (message : Option ValidatedPopupMessage) :
    ∃ noted, PopupEffect confirmApiOrigin (background.checked now noted) t
      (background.handlePopupMessage confirmApiOrigin t now trusted message) := by
  unfold handlePopupMessage
  dsimp only
  split
  · exact ⟨false, .answered _⟩
  · split
    · exact ⟨false, .answered _⟩
    · refine ⟨true, ?_⟩
      split
      · exact startGetState_effect
      · exact .locked _
      · exact .loggingOut
      · exact startRequestCandidates_effect
      · exact startListItems_effect
      · exact startGetTotp_effect _
      · exact .unlocking _ _
      · exact startSaveItem_effect _
      · exact startFillSelected_effect _ _

end Popup

section Resume

variable {t now : Nat} {task : HandlerTask}

theorem resumeReturned_cases {requestId : String} {handler : Handler} {result : VaultResult}
    (resumed : background.resumeReturned t now requestId handler result = some next) :
    ResumeEffect parseOrigin sealPayload background t now ⟨handler, some (.returned result)⟩
      (.returned requestId) next := by
  unfold resumeReturned at resumed
  split at resumed
  · cases resumed
    exact .answered _ _ rfl
  · cases resumed
    exact .unlocked _ _ _ rfl
  · cases resumed
    exact .loggedOut _ rfl
  · split at resumed
    · cases resumed
      exact .answered _ _ rfl
    · rename_i offer ok active
      simp only [Bool.or_eq_true, Bool.not_eq_true', not_or, Bool.not_eq_false] at active
      split at resumed <;> cases resumed
      · rename_i pending
        rw [Option.any_eq_true] at pending
        obtain ⟨pending, there, same⟩ := pending
        exact .granted offer pending _ (by rw [active.1]) active.2 there (beq_iff_eq.mp same)
      · exact .answered _ _ rfl
  · split at resumed <;> cases resumed <;> exact .answered _ _ rfl
  · cases resumed
    exact .answered _ _ rfl
  · cases resumed
    exact .answered _ _ rfl
  · split at resumed
    · cases resumed
      exact .answered _ _ rfl
    · rename_i same
      split at resumed <;> cases resumed
      · exact .answered _ _ rfl
      · exact .filled _ _ _ (by rw [not_not.mp same])
  · cases resumed

theorem resumeActiveTab_cases (requestId itemId : String) (offer : PendingOffer)
    (generation : Nat) (tab : Option (Nat × String)) :
    ResumeEffect parseOrigin sealPayload background t now
      ⟨.activeTab requestId itemId offer generation, none⟩ (.activeTab tab)
      (background.resumeActiveTab t now requestId itemId offer generation tab) := by
  unfold resumeActiveTab
  split
  · exact .answered _ _ rfl
  · rename_i current
    simp only [Bool.or_eq_true, Bool.not_eq_true', not_or, Bool.not_eq_false,
      bne_iff_ne, ne_eq, not_not] at current
    obtain ⟨active, rfl⟩ := current
    split
    · exact .refused _ _ _ _ _ rfl active
    · rename_i same
      rw [not_not.mp same]
      dsimp only
      split
      · rename_i valid
        exact .consumed _ _ _ rfl active valid
      · exact .refused _ _ _ _ _ rfl active

theorem resume_cases {answer : BackgroundAnswer}
    (resumed : background.resume parseOrigin sealPayload t now task answer = some next) :
    ResumeEffect parseOrigin sealPayload background t now task answer next := by
  obtain ⟨handler, stage⟩ := task
  cases answer with
  | vault answer =>
      simp only [resume] at resumed
      split at resumed
      · cases resumed
      · cases resumed
      · rename_i running
        rw [Option.map_eq_some_iff] at resumed
        obtain ⟨progress, resumed, rfl⟩ := resumed
        refine .vault _ _ progress rfl ?_ resumed
        rintro result rfl
        exact running result rfl
  | returned requestId =>
      simp only [resume] at resumed
      split at resumed
      · exact resumeReturned_cases resumed
      · cases resumed
  | savedAccount account =>
      simp only [resume] at resumed
      split at resumed <;> cases resumed
      exact .readAccount _ rfl
  | accountStored =>
      simp only [resume] at resumed
      split at resumed <;> cases resumed
      exact .answered _ _ rfl
  | activeTab tab =>
      simp only [resume] at resumed
      split at resumed <;> cases resumed
      exact resumeActiveTab_cases _ _ _ _ _
  | sent delivered =>
      simp only [resume] at resumed
      split at resumed <;> cases resumed
      exact .sent _ _ rfl

end Resume

theorem tasks_answer (background : Background) (t : Nat) (response : BackgroundToPopup) :
    (background.answer t response).tasks = Function.update background.tasks t none := rfl

theorem tasks_suspend (background : Background) (t : Nat) (handler : Handler)
    (stage : Option VaultStage) :
    (background.suspend t handler stage).tasks =
      Function.update background.tasks t (some ⟨handler, stage⟩) := rfl

theorem tasks_advance (background : Background) (t : Nat) (handler : Handler)
    (progress : VaultProgress) :
    (background.advance t handler progress).tasks =
      Function.update background.tasks t (some ⟨handler, some progress.stage⟩) := by
  unfold advance
  dsimp only
  split <;> rfl

section Frame

variable {t now other : Nat}

theorem ContentEffect.tasks (effect : ContentEffect parseOrigin background next) :
    next.tasks = background.tasks := by
  cases effect <;> rfl

theorem ContentEffect.vault (effect : ContentEffect parseOrigin background next) :
    next.vault = background.vault := by
  cases effect <;> rfl

theorem ContentEffect.session (effect : ContentEffect parseOrigin background next) :
    next.session = background.session := by
  cases effect <;> rfl

theorem PopupEffect.tasks (effect : PopupEffect confirmApiOrigin background t next)
    (different : other ≠ t) : next.tasks other = background.tasks other := by
  cases effect with
  | answered => rw [tasks_answer, Function.update_of_ne different]
  | locked =>
      rw [tasks_answer, Function.update_of_ne different]
      rfl
  | readsAccount => rw [tasks_suspend, Function.update_of_ne different]
  | selected => rw [tasks_suspend, Function.update_of_ne different]
  | called => rw [tasks_advance, Function.update_of_ne different]
  | loggingOut => rw [tasks_advance, Function.update_of_ne different]
  | unlocking =>
      unfold startUnlock
      dsimp only
      rw [tasks_advance, Function.update_of_ne different]
      split <;> rfl

theorem ResumeEffect.tasks {task : HandlerTask} {answer : BackgroundAnswer}
    (effect : ResumeEffect parseOrigin sealPayload background t now task answer next)
    (different : other ≠ t) : next.tasks other = background.tasks other := by
  cases effect with
  | vault => rw [tasks_advance, Function.update_of_ne different]
  | answered => rw [tasks_answer, Function.update_of_ne different]
  | unlocked => rw [tasks_suspend, Function.update_of_ne different]
  | loggedOut => rw [tasks_answer, Function.update_of_ne different]
  | granted =>
      unfold grantCandidates
      dsimp only
      rw [tasks_answer, Function.update_of_ne different]
  | filled => rw [tasks_suspend, Function.update_of_ne different]
  | refused => rw [tasks_answer, Function.update_of_ne different]
  | consumed => rw [tasks_advance, Function.update_of_ne different]
  | sent =>
      unfold resumeSending
      dsimp only
      split
      · rw [tasks_answer, Function.update_of_ne different]
        rfl
      · rw [tasks_answer, Function.update_of_ne different]
  | readAccount => rw [tasks_answer, Function.update_of_ne different]

end Frame

def taskOf : BackgroundAction → Option Nat
  | .popup t _ _ _ | .resume t _ _ => some t
  | _ => none

theorem step_tasks {action : BackgroundAction} {other : Nat}
    (stepped : background.step parseOrigin confirmApiOrigin sealPayload action = some next)
    (different : taskOf action ≠ some other) : next.tasks other = background.tasks other := by
  cases action with
  | lock =>
      cases stepped
      rfl
  | popupClosed =>
      cases stepped
      rfl
  | content now sender message =>
      cases stepped
      exact congrFun (content_cases background now sender message).tasks other
  | popup t now trusted message =>
      simp only [step] at stepped
      split at stepped <;> cases stepped
      obtain ⟨noted, effect⟩ := popup_cases trusted message
      refine effect.tasks ?_
      rintro rfl
      exact different rfl
  | resume t now answer =>
      simp only [step, Option.bind_eq_some_iff] at stepped
      obtain ⟨task, -, resumed⟩ := stepped
      refine (resume_cases resumed).tasks ?_
      rintro rfl
      exact different rfl

theorem run_tasks {actions : List BackgroundAction} {other : Nat}
    (ran : Transition.run (Background.step parseOrigin confirmApiOrigin sealPayload) background
      actions = some next)
    (different : ∀ action ∈ actions, taskOf action ≠ some other) :
    next.tasks other = background.tasks other := by
  induction actions generalizing background with
  | nil =>
      cases ran
      rfl
  | cons action rest ih =>
      rw [Transition.run_cons, Option.bind_eq_some_iff] at ran
      obtain ⟨middle, stepped, ran⟩ := ran
      rw [ih ran fun later there => different later (List.mem_cons_of_mem _ there)]
      exact step_tasks stepped (different action List.mem_cons_self)

theorem started_of_task {actions : List BackgroundAction} {t : Nat} {task : HandlerTask}
    (ran : Transition.run (Background.step parseOrigin confirmApiOrigin sealPayload) {} actions =
      some next)
    (there : next.tasks t = some task) : ∃ action ∈ actions, taskOf action = some t := by
  by_contra none
  have kept : next.tasks t = _ := run_tasks ran fun action among mine => none ⟨action, among, mine⟩
  rw [there] at kept
  cases kept

end Steps

end Background

end ZenPass.Extension
