import ZenPass.Extension.FillAudit

set_option autoImplicit false

namespace ZenPass.Extension

open Client KeyedStore Transition

def SessionOnward (before after : SessionStateMachine) : Prop :=
  before.generation < after.generation ∨
    after.generation = before.generation ∧ (before.active = true → after.active = true)

namespace SessionOnward

variable {before middle after : SessionStateMachine}

theorem refl (session : SessionStateMachine) : SessionOnward session session := .inr ⟨rfl, id⟩

theorem generation_le (onward : SessionOnward before after) :
    before.generation ≤ after.generation := by
  rcases onward with later | ⟨same, -⟩
  · omega
  · omega

theorem trans (first : SessionOnward before middle) (second : SessionOnward middle after) :
    SessionOnward before after := by
  rcases first with later | ⟨same, stays⟩
  · rcases second with further | ⟨equal, -⟩
    · exact .inl (by omega)
    · exact .inl (by omega)
  · rcases second with further | ⟨equal, keeps⟩
    · exact .inl (by omega)
    · exact .inr ⟨by omega, fun active => keeps (stays active)⟩

theorem lock (session : SessionStateMachine) (reason : LockReason) :
    SessionOnward session (session.lock reason) := .inl (Nat.lt_succ_self _)

theorem ensureActive (session : SessionStateMachine) (now : Nat) :
    SessionOnward session (session.ensureActive now) := by
  rw [SessionStateMachine.ensureActive]
  split
  · exact lock session .timeout
  · exact refl session

theorem noteTrustedPopupActivity (session : SessionStateMachine) (now : Nat) :
    SessionOnward session (session.noteTrustedPopupActivity now) := by
  rw [SessionStateMachine.noteTrustedPopupActivity]
  split
  · exact .inr ⟨rfl, id⟩
  · exact refl session

theorem markUnlocked (session : SessionStateMachine) (now : Nat) :
    SessionOnward session (session.markUnlocked now) := by
  rw [SessionStateMachine.markUnlocked]
  split
  · exact refl session
  · exact .inr ⟨rfl, fun _ => rfl⟩

end SessionOnward

structure Made (parseOrigin : String → Option ParsedOrigin) (made : OfferMade) : Prop where
  tab : made.sender.tabId = made.offer.tabId
  document : made.sender.documentId = some made.offer.documentId
  origin : made.sender.origin = made.offer.origin
  page : made.request.pageUrl = made.sender.url
  decided : ∃ candidates : List LoginCandidate,
    (∀ candidate ∈ candidates, candidate.origin = made.sender.origin) ∧
      decideFill parseOrigin made.request candidates = .allowed made.offer.candidates

/-- The capability has the offer's binding, and was consumed in its lifetime. -/
structure FillTicket.Valid (ticket : FillTicket) (generation : Nat) : Prop where
  binding : ticket.capability.binding =
    { generation
      tabId := ticket.offer.tabId
      documentId := ticket.offer.documentId
      origin := ticket.offer.origin
      formActionOrigin := ticket.offer.formActionOrigin }
  young : ticket.consumedAt - ticket.capability.grantedAt ≤ maxCapabilityLifetimeMs
  among : ticket.offer.candidates.any (fun candidate => candidate.id == ticket.itemId) = true

/-- What a fill was sent under. -/
structure Sending.Authorized (parseOrigin : String → Option ParsedOrigin) (made : List OfferMade)
    (grants : List FillCapability) (sending : Sending) : Prop where
  active : sending.session.active = true
  granted : grants[sending.ticket.grant]? = some sending.ticket.capability
  valid : sending.ticket.Valid sending.session.generation
  offered : ∃ sender request, ⟨sending.ticket.offer, sender, request⟩ ∈ made ∧
    Made parseOrigin ⟨sending.ticket.offer, sender, request⟩
  tab : sending.message.tabId = sending.ticket.offer.tabId
  document : sending.message.documentId = sending.ticket.offer.documentId
  origin : sending.message.origin = sending.ticket.offer.origin
  fields : FieldsOf parseOrigin sending.item sending.ticket.offer.origin sending.message.fields

namespace AuditedBackground

structure FillTask (audited : AuditedBackground) (t : Nat) (offer : PendingOffer) (itemId : String)
    (generation : Nat) : Prop where
  made : ∃ sender request, ⟨offer, sender, request⟩ ∈ audited.made
  among : offer.candidates.any (fun candidate => candidate.id == itemId) = true
  listed : t ∈ audited.fillTasks
  reached : generation ≤ audited.background.session.generation
  active : generation = audited.background.session.generation →
    audited.background.session.active = true

def sentGrants (audited : AuditedBackground) : List Nat :=
  audited.sendings.map fun sending => sending.ticket.grant

structure FieldsTask (parseOrigin : String → Option ParsedOrigin) (audited : AuditedBackground)
    (t : Nat) (offer : PendingOffer) (generation : Nat) (stage : Option VaultStage)
    (ticket : FillTicket) : Prop where
  held : audited.tickets t = some ticket
  same : ticket.offer = offer
  fill : audited.FillTask t offer ticket.itemId generation
  valid : ticket.Valid generation
  unsent : ticket.grant ∉ audited.sentGrants
  stage : ∃ reached, stage = some reached ∧
    FieldsStage parseOrigin ticket.itemId offer.origin (audited.chosen t) reached

def TaskOk (parseOrigin : String → Option ParsedOrigin) (audited : AuditedBackground) (t : Nat)
    (task : HandlerTask) : Prop :=
  match task.handler with
  | .activeTab _ itemId offer generation => audited.FillTask t offer itemId generation
  | .fields offer generation =>
      ∃ ticket, audited.FieldsTask parseOrigin t offer generation task.stage ticket
  | _ => True

/-- Every grant is consumed once, and sent under once. -/
structure Ledger (audited : AuditedBackground) : Prop where
  bound : ∀ requestId grant, audited.grantOf requestId = some grant →
    grant < audited.grants.length
  injective : ∀ requestId other grant, audited.grantOf requestId = some grant →
    audited.grantOf other = some grant → requestId = other
  store : ∀ requestId capability,
    audited.background.capabilities.get requestId = some capability →
      ∃ grant, audited.grantOf requestId = some grant ∧ grant ∉ audited.spent ∧
        audited.grants[grant]? = some capability
  spent : ∀ grant ∈ audited.spent, grant < audited.grants.length
  tickets : ∀ t ticket, audited.tickets t = some ticket → ticket.grant ∈ audited.spent ∧
    audited.grants[ticket.grant]? = some ticket.capability
  apart : ∀ t other first second, audited.tickets t = some first →
    audited.tickets other = some second → first.grant = second.grant → t = other
  sent : ∀ grant ∈ audited.sentGrants, grant ∈ audited.spent
  nodup : audited.sentGrants.Nodup

structure Sound (parseOrigin : String → Option ParsedOrigin) (audited : AuditedBackground) :
    Prop where
  made : ∀ made ∈ audited.made, Made parseOrigin made
  pending : ∀ offer, audited.background.pendingOffer = some offer →
    ∃ sender request, ⟨offer, sender, request⟩ ∈ audited.made
  ledger : audited.Ledger
  tasks : ∀ t task, audited.background.tasks t = some task → audited.TaskOk parseOrigin t task
  fills : audited.background.fills = audited.sendings.map Sending.message
  sendings : ∀ sending ∈ audited.sendings, sending.Authorized parseOrigin audited.made audited.grants

variable {parseOrigin : String → Option ParsedOrigin} {audited next : AuditedBackground} {t : Nat}

theorem ledger_initial : Ledger {} where
  bound _ _ known := by cases known
  injective _ _ _ known := by cases known
  store _ _ found := by simp [InsertionMap.get, InsertionMap.empty] at found
  spent _ member := by cases member
  tickets _ _ held := by cases held
  apart _ _ _ _ held := by cases held
  sent _ member := by cases member
  nodup := List.nodup_nil

theorem sound_initial : Sound parseOrigin {} where
  made _ member := by cases member
  pending _ pending := by cases pending
  ledger := ledger_initial
  tasks _ _ there := by cases there
  fills := rfl
  sendings _ member := by cases member

theorem FillTask.frame {offer : PendingOffer} {itemId : String} {generation : Nat}
    (fill : audited.FillTask t offer itemId generation)
    (made : ∀ made ∈ audited.made, made ∈ next.made)
    (listed : ∀ other ∈ audited.fillTasks, other ∈ next.fillTasks)
    (session : SessionOnward audited.background.session next.background.session) :
    next.FillTask t offer itemId generation := by
  obtain ⟨⟨sender, request, there⟩, among, here, reached, active⟩ := fill
  refine ⟨⟨sender, request, made _ there⟩, among, listed t here, ?_, ?_⟩
  · rcases session with later | ⟨same, -⟩
    · omega
    · omega
  · intro current
    rcases session with later | ⟨same, stays⟩
    · omega
    · exact stays (active (by omega))

theorem TaskOk.frame {task : HandlerTask} (ok : audited.TaskOk parseOrigin t task)
    (made : ∀ made ∈ audited.made, made ∈ next.made)
    (listed : ∀ other ∈ audited.fillTasks, other ∈ next.fillTasks)
    (session : SessionOnward audited.background.session next.background.session)
    (ticket : next.tickets t = audited.tickets t) (chosen : next.chosen t = audited.chosen t)
    (unsent : ∀ ticket, audited.tickets t = some ticket → ticket.grant ∉ audited.sentGrants →
      ticket.grant ∉ next.sentGrants) : next.TaskOk parseOrigin t task := by
  unfold TaskOk at ok ⊢
  split at ok
  · exact ok.frame made listed session
  · obtain ⟨mine, fields⟩ := ok
    refine ⟨mine, ticket.trans fields.held, fields.same, fields.fill.frame made listed session,
      fields.valid, unsent mine fields.held fields.unsent, ?_⟩
    rw [chosen]
    exact fields.stage
  · trivial

structure Quiet (before after : Background) (acting : Option Nat) : Prop where
  session : SessionOnward before.session after.session
  capabilities : ∀ requestId capability, after.capabilities.get requestId = some capability →
    before.capabilities.get requestId = some capability
  pending : ∀ offer, after.pendingOffer = some offer → before.pendingOffer = some offer
  fills : after.fills = before.fills
  tasks : ∀ other, acting ≠ some other → after.tasks other = before.tasks other

namespace Quiet

variable {before middle after : Background} {acting : Option Nat}

theorem refl (before : Background) (acting : Option Nat) : Quiet before before acting :=
  ⟨SessionOnward.refl _, fun _ _ => id, fun _ => id, rfl, fun _ _ => rfl⟩

theorem trans (first : Quiet before middle acting) (second : Quiet middle after acting) :
    Quiet before after acting where
  session := first.session.trans second.session
  capabilities requestId capability found :=
    first.capabilities requestId capability (second.capabilities requestId capability found)
  pending offer there := first.pending offer (second.pending offer there)
  fills := second.fills.trans first.fills
  tasks other apart := (second.tasks other apart).trans (first.tasks other apart)

theorem gone (quiet : Quiet before after acting) {requestId : String}
    (absent : before.capabilities.get requestId = none) :
    after.capabilities.get requestId = none := by
  cases found : after.capabilities.get requestId with
  | none => rfl
  | some capability =>
      rw [quiet.capabilities requestId capability found] at absent
      cases absent

theorem lockFor (background : Background) (reason : LockReason) (acting : Option Nat) :
    Quiet background (background.lockFor reason) acting where
  session := SessionOnward.lock _ reason
  capabilities requestId capability found := by
    simp [Background.lockFor, InsertionMap.get, InsertionMap.empty] at found
  pending offer there := by cases there
  fills := rfl
  tasks _ _ := rfl

theorem answer (background : Background) (t : Nat) (response : BackgroundToPopup) :
    Quiet background (background.answer t response) (some t) where
  session := SessionOnward.refl _
  capabilities _ _ := id
  pending _ := id
  fills := rfl
  tasks _ apart := Function.update_of_ne (fun same => apart (congrArg some same.symm)) _ _

theorem suspend (background : Background) (t : Nat) (handler : Handler)
    (stage : Option VaultStage) : Quiet background (background.suspend t handler stage) (some t) where
  session := SessionOnward.refl _
  capabilities _ _ := id
  pending _ := id
  fills := rfl
  tasks _ apart := Function.update_of_ne (fun same => apart (congrArg some same.symm)) _ _

theorem advance (background : Background) (t : Nat) (handler : Handler) (progress : VaultProgress) :
    Quiet background (background.advance t handler progress) (some t) := by
  simp only [Background.advance]
  apply Quiet.trans _ (suspend _ t handler _)
  have stepped : Quiet background
      { background with
        vault := progress.vault
        uploads := background.uploads ++ progress.uploaded.toList } (some t) :=
    ⟨SessionOnward.refl _, fun _ _ => id, fun _ => id, rfl, fun _ _ => rfl⟩
  split
  · exact stepped.trans (lockFor _ .explicit _)
  · exact stepped

theorem checked (background : Background) (now : Nat) (noted : Bool) (acting : Option Nat) :
    Quiet background (background.checked now noted) acting := by
  refine ⟨?_, fun _ _ => id, fun _ => id, rfl, fun _ _ => rfl⟩
  rw [Background.checked]
  cases noted with
  | false => exact SessionOnward.ensureActive _ now
  | true =>
      exact (SessionOnward.ensureActive _ now).trans (SessionOnward.noteTrustedPopupActivity _ now)

theorem consume (background : Background) (requestId : String)
    (binding : Option FillCapabilityBinding) (now : Nat) (acting : Option Nat) :
    Quiet background
      { background with
        capabilities := (background.capabilities.consume requestId binding now).1 } acting :=
  ⟨SessionOnward.refl _, fun _ _ => FillCapabilityStore.get_of_consume, fun _ => id, rfl,
    fun _ _ => rfl⟩

theorem startUnlock (confirmApiOrigin : String → Option String) (background : Background) (t : Nat)
    (accountId apiOrigin : String) :
    Quiet background (background.startUnlock confirmApiOrigin t accountId apiOrigin) (some t) := by
  simp only [Background.startUnlock]
  apply Quiet.trans _ (advance _ t _ _)
  split
  · exact lockFor background .explicit _
  · exact refl background _

theorem resumeSending (background : Background) (t generation : Nat) (delivered : Bool) :
    Quiet background (background.resumeSending t generation delivered) (some t) := by
  have done : Quiet background { background with pendingOffer := none } (some t) :=
    ⟨SessionOnward.refl _, fun _ _ => id, nofun, rfl, fun _ _ => rfl⟩
  simp only [Background.resumeSending]
  split
  · exact (done.trans (lockFor _ .explicit _)).trans (answer _ t _)
  · exact done.trans (answer _ t _)

end Quiet

theorem Ledger.of_store (ledger : audited.Ledger) (background : Background)
    (capabilities : ∀ requestId capability,
      background.capabilities.get requestId = some capability →
        audited.background.capabilities.get requestId = some capability)
    {fillTasks : List Nat} {chosen : Nat → Option VaultItemData} {made : List OfferMade} :
    Ledger { audited with background, fillTasks, chosen, made } :=
  { ledger with
    store := fun requestId capability found =>
      ledger.store requestId capability (capabilities requestId capability found) }

theorem Sound.quiet (sound : audited.Sound parseOrigin) {background : Background}
    {acting : Option Nat} (quiet : Quiet audited.background background acting)
    {fillTasks : List Nat} {chosen : Nat → Option VaultItemData}
    (listed : ∀ other ∈ audited.fillTasks, other ∈ fillTasks)
    (others : ∀ other, acting ≠ some other → chosen other = audited.chosen other)
    (own : ∀ t task, acting = some t → background.tasks t = some task →
      TaskOk parseOrigin { audited with background, fillTasks, chosen } t task) :
    Sound parseOrigin { audited with background, fillTasks, chosen } where
  made := sound.made
  pending offer there := sound.pending offer (quiet.pending offer there)
  ledger := sound.ledger.of_store background quiet.capabilities
  tasks t task there := by
    by_cases mine : acting = some t
    · exact own t task mine there
    · have before : audited.background.tasks t = some task := (quiet.tasks t mine).symm.trans there
      exact (sound.tasks t task before).frame (fun _ => id) listed quiet.session rfl (others t mine)
        fun _ _ => id
  fills := quiet.fills.trans sound.fills
  sendings := sound.sendings

theorem Sound.quietly (sound : audited.Sound parseOrigin) {background : Background}
    {acting : Option Nat} (quiet : Quiet audited.background background acting)
    (own : ∀ t task, acting = some t → background.tasks t = some task →
      TaskOk parseOrigin { audited with background } t task) :
    Sound parseOrigin { audited with background } :=
  sound.quiet quiet (fun _ => id) (fun _ _ => rfl) own

theorem candidatesFor_origin {vault : VaultManager} {pageOrigin : String} (candidate : LoginCandidate)
    (member : candidate ∈ vault.candidatesFor parseOrigin pageOrigin) :
    candidate.origin = pageOrigin := by
  unfold VaultManager.candidatesFor at member
  split at member
  · cases member
  · obtain ⟨entry, -, rfl⟩ := List.mem_map.mp member
    rfl

theorem content_made (parseOrigin : String → Option ParsedOrigin) (background : Background)
    (now : Nat) (sender : Option TrustedContentSender) (message : Option ValidatedContentMessage) :
    let next := (background.handleContentMessage parseOrigin now sender message).1
    (Quiet background next none ∧ next.offers = background.offers) ∨
      ∃ from' request offer, sender = some from' ∧ message = some (.offer request) ∧
        next = { background.checked now false with
          offers := background.offers + 1
          pendingOffer := some offer } ∧
        Made parseOrigin ⟨offer, from', request⟩ := by
  have checked := Quiet.checked background now false none
  have withdrawn : Quiet background
      { background.checked now false with pendingOffer := none } none :=
    checked.trans ⟨SessionOnward.refl _, fun _ _ => id, nofun, rfl, fun _ _ => rfl⟩
  unfold Background.handleContentMessage
  dsimp only
  split
  · exact .inl ⟨checked, rfl⟩
  · exact .inl ⟨checked, rfl⟩
  · split
    · exact .inl ⟨withdrawn, rfl⟩
    · exact .inl ⟨checked, rfl⟩
  · split
    · exact .inl ⟨checked, rfl⟩
    · split
      · exact .inl ⟨checked, rfl⟩
      · rename_i page
        split
        · exact .inl ⟨checked, rfl⟩
        · rename_i decided
          split
          · exact .inl ⟨withdrawn, rfl⟩
          · rename_i document
            exact .inr ⟨_, _, _, rfl, rfl, rfl, rfl, document, rfl, not_not.mp page, _,
              candidatesFor_origin, decided⟩

theorem Sound.content (sound : audited.Sound parseOrigin) (now : Nat)
    (sender : Option TrustedContentSender) (message : Option ValidatedContentMessage) :
    Sound parseOrigin (audited.recordContent sender message
      (audited.background.handleContentMessage parseOrigin now sender message).1) := by
  rcases content_made parseOrigin audited.background now sender message with
    ⟨quiet, same⟩ | ⟨from', request, offer, rfl, rfl, is, made⟩
  · have kept := sound.quietly quiet fun _ _ mine => by cases mine
    simp only [recordContent]
    split
    · rw [if_pos same]
      exact kept
    · exact kept
  · rw [is]
    have fresh : audited.background.offers + 1 ≠ audited.background.offers := by omega
    simp only [recordContent, if_neg fresh]
    have checked := Quiet.checked audited.background now false none
    constructor
    · intro other member
      rcases List.mem_append.mp member with old | new
      · exact sound.made other old
      · rw [List.mem_singleton.mp new]
        exact made
    · rintro _ ⟨⟩
      exact ⟨from', request, List.mem_append_right _ (List.mem_singleton_self _)⟩
    · exact sound.ledger.of_store
        { audited.background.checked now false with
          offers := audited.background.offers + 1
          pendingOffer := some offer } checked.capabilities
    · intro t task there
      exact (sound.tasks t task there).frame (fun _ => List.mem_append_left _) (fun _ => id)
        checked.session rfl rfl fun _ _ => id
    · exact sound.fills
    · intro sending member
      have authorized := sound.sendings sending member
      obtain ⟨by', asked, there, known⟩ := authorized.offered
      exact { authorized with offered := ⟨by', asked, List.mem_append_left _ there, known⟩ }

end AuditedBackground

def Handler.plain : Handler → Bool
  | .activeTab _ _ _ _ => false
  | .fields _ _ => false
  | _ => true

namespace AuditedBackground

variable {parseOrigin : String → Option ParsedOrigin} {confirmApiOrigin : String → Option String}
  {sealPayload : SealRequest → Option Wire.Bytes} {audited : AuditedBackground}
  {background next : Background} {t : Nat}

theorem taskOk_plain {task : HandlerTask} (plain : task.handler.plain = true) :
    audited.TaskOk parseOrigin t task := by
  unfold TaskOk
  split
  · simp_all [Handler.plain]
  · simp_all [Handler.plain]
  · trivial

theorem Sound.plain (sound : audited.Sound parseOrigin)
    (quiet : Quiet audited.background next (some t))
    (plain : ∀ task, next.tasks t = some task → task.handler.plain = true) :
    Sound parseOrigin { audited with background := next } :=
  sound.quietly quiet fun _ task mine there => by
    cases mine
    exact taskOk_plain (plain task there)

theorem plain_answer {response : BackgroundToPopup} {task : HandlerTask}
    (there : (background.answer t response).tasks t = some task) : task.handler.plain = true := by
  rw [Background.tasks_answer, Function.update_self] at there
  cases there

theorem plain_suspend {handler : Handler} {stage : Option VaultStage} {task : HandlerTask}
    (plain : handler.plain = true)
    (there : (background.suspend t handler stage).tasks t = some task) :
    task.handler.plain = true := by
  rw [Background.tasks_suspend, Function.update_self] at there
  cases there
  exact plain

theorem plain_advance {handler : Handler} {progress : VaultProgress} {task : HandlerTask}
    (plain : handler.plain = true)
    (there : (background.advance t handler progress).tasks t = some task) :
    task.handler.plain = true := by
  rw [Background.tasks_advance, Function.update_self] at there
  cases there
  exact plain

theorem recordPopup_plain (plain : ∀ task, next.tasks t = some task → task.handler.plain = true) :
    audited.recordPopup t next = { audited with background := next } := by
  simp only [recordPopup]
  cases there : next.tasks t with
  | none => rfl
  | some task =>
      have known := plain task there
      obtain ⟨handler, stage⟩ := task
      cases handler with
      | activeTab => cases known
      | _ => rfl

theorem popup_quiet (effect : Background.PopupEffect confirmApiOrigin background t next) :
    Quiet background next (some t) := by
  cases effect with
  | answered response => exact Quiet.answer background t response
  | locked response =>
      exact (Quiet.lockFor background .explicit _).trans (Quiet.answer _ t response)
  | readsAccount => exact Quiet.suspend background t _ _
  | selected => exact Quiet.suspend background t _ _
  | called handler progress => exact Quiet.advance background t handler progress
  | loggingOut => exact Quiet.advance background t _ _
  | unlocking accountId apiOrigin =>
      exact Quiet.startUnlock confirmApiOrigin background t accountId apiOrigin

theorem popup_plain (effect : Background.PopupEffect confirmApiOrigin background t next) :
    (∀ task, next.tasks t = some task → task.handler.plain = true) ∨
      ∃ requestId itemId offer, background.session.active = true ∧
        background.pendingOffer = some offer ∧
        offer.candidates.any (fun candidate => candidate.id == itemId) = true ∧
        next = background.suspend t
          (.activeTab requestId itemId offer background.session.generation) none := by
  cases effect with
  | answered response => exact .inl fun _ => plain_answer
  | locked response => exact .inl fun _ => plain_answer
  | readsAccount => exact .inl fun _ => plain_suspend rfl
  | selected requestId itemId offer active pending among =>
      exact .inr ⟨requestId, itemId, offer, active, pending, among, rfl⟩
  | called handler progress active starts =>
      refine .inl fun _ => plain_advance ?_
      cases starts <;> rfl
  | loggingOut => exact .inl fun _ => plain_advance rfl
  | unlocking accountId apiOrigin => exact .inl fun _ => plain_advance rfl

theorem Sound.popup (sound : audited.Sound parseOrigin) {now : Nat} {noted : Bool}
    (effect : Background.PopupEffect confirmApiOrigin (audited.background.checked now noted) t
      next) : Sound parseOrigin (audited.recordPopup t next) := by
  have quiet := (Quiet.checked audited.background now noted (some t)).trans (popup_quiet effect)
  rcases popup_plain effect with plain | ⟨requestId, itemId, offer, active, pending, among, rfl⟩
  · rw [recordPopup_plain plain]
    exact sound.plain quiet plain
  · simp only [recordPopup, Background.tasks_suspend, Function.update_self, Option.map_some]
    apply sound.quiet quiet (fun _ => List.mem_cons_of_mem _) fun _ _ => rfl
    intro t' task mine there
    cases mine
    rw [Background.tasks_suspend, Function.update_self] at there
    cases there
    exact ⟨sound.pending offer pending, among, List.mem_cons_self, Nat.le_refl _,
      fun _ => active⟩

theorem Ledger.grant (ledger : audited.Ledger) {requestId : String} {capability : FillCapability}
    (granted : next.capabilities.get requestId = some capability)
    (others : ∀ other capability, other ≠ requestId →
      next.capabilities.get other = some capability →
        audited.background.capabilities.get other = some capability) :
    Ledger
      { audited with
        background := next
        grants := audited.grants ++ [capability]
        grantOf := Function.update audited.grantOf requestId (some audited.grants.length) } := by
  have unspent : audited.grants.length ∉ audited.spent := fun member =>
    Nat.lt_irrefl _ (ledger.spent _ member)
  have kept {grant : Nat} {held : FillCapability} (known : audited.grants[grant]? = some held) :
      (audited.grants ++ [capability])[grant]? = some held := by
    rw [List.getElem?_append_left (List.getElem?_eq_some_iff.mp known).1]
    exact known
  constructor
  · intro other grant known
    dsimp only at known ⊢
    rw [List.length_append]
    by_cases same : other = requestId
    · rw [same, Function.update_self] at known
      cases known
      exact Nat.lt_succ_self _
    · rw [Function.update_of_ne same] at known
      exact Nat.lt_succ_of_lt (ledger.bound other grant known)
  · intro first second grant one two
    dsimp only at one two
    by_cases mine : first = requestId
    · by_cases yours : second = requestId
      · rw [mine, yours]
      · rw [mine, Function.update_self] at one
        rw [Function.update_of_ne yours] at two
        cases one
        exact absurd (ledger.bound second _ two) (Nat.lt_irrefl _)
    · rw [Function.update_of_ne mine] at one
      by_cases yours : second = requestId
      · rw [yours, Function.update_self] at two
        cases two
        exact absurd (ledger.bound first _ one) (Nat.lt_irrefl _)
      · rw [Function.update_of_ne yours] at two
        exact ledger.injective first second grant one two
  · intro other held found
    dsimp only at found ⊢
    by_cases same : other = requestId
    · rw [same, granted] at found
      cases found
      rw [same, Function.update_self]
      exact ⟨_, rfl, unspent, List.getElem?_concat_length⟩
    · rw [Function.update_of_ne same]
      obtain ⟨grant, known, free, capability⟩ :=
        ledger.store other held (others other held same found)
      exact ⟨grant, known, free, kept capability⟩
  · intro grant member
    rw [List.length_append]
    exact Nat.lt_succ_of_lt (ledger.spent grant member)
  · intro other ticket held
    exact ⟨(ledger.tickets other ticket held).1, kept (ledger.tickets other ticket held).2⟩
  · exact ledger.apart
  · exact ledger.sent
  · exact ledger.nodup

theorem Sound.grant (sound : audited.Sound parseOrigin) {requestId : String}
    {capability : FillCapability} (granted : next.capabilities.get requestId = some capability)
    (quiet : Quiet audited.background
      { next with capabilities := audited.background.capabilities } (some t))
    (others : ∀ other capability, other ≠ requestId →
      next.capabilities.get other = some capability →
        audited.background.capabilities.get other = some capability)
    (plain : ∀ task, next.tasks t = some task → task.handler.plain = true) :
    Sound parseOrigin
      { audited with
        background := next
        grants := audited.grants ++ [capability]
        grantOf := Function.update audited.grantOf requestId (some audited.grants.length) } where
  made := sound.made
  pending offer there := sound.pending offer (quiet.pending offer there)
  ledger := sound.ledger.grant granted others
  tasks other task there := by
    by_cases mine : some t = some other
    · cases mine
      exact taskOk_plain (plain task there)
    · have before : audited.background.tasks other = some task :=
        (quiet.tasks other mine).symm.trans there
      exact (sound.tasks other task before).frame (fun _ => id) (fun _ => id) quiet.session rfl
        rfl fun _ _ => id
  fills := quiet.fills.trans sound.fills
  sendings sending member := by
    have authorized := sound.sendings sending member
    refine { authorized with granted := ?_ }
    rw [List.getElem?_append_left (List.getElem?_eq_some_iff.mp authorized.granted).1]
    exact authorized.granted

theorem Ledger.consume (ledger : audited.Ledger) (ticket : FillTicket) {requestId : String}
    (there : audited.background.capabilities.get requestId = some ticket.capability)
    (grant : audited.grantOf requestId = some ticket.grant)
    (gone : next.capabilities.get requestId = none)
    (others : ∀ other capability, next.capabilities.get other = some capability →
      audited.background.capabilities.get other = some capability) :
    Ledger
      { audited with
        background := next
        spent := audited.spent ++ [ticket.grant]
        tickets := Function.update audited.tickets t (some ticket) } := by
  obtain ⟨known, is, unspent, granted⟩ := ledger.store requestId _ there
  cases grant.symm.trans is
  constructor
  · exact ledger.bound
  · exact ledger.injective
  · intro other capability found
    obtain ⟨further, known, kept, granted⟩ :=
      ledger.store other capability (others other capability found)
    refine ⟨further, known, ?_, granted⟩
    simp only [List.mem_append, List.mem_singleton, not_or]
    refine ⟨kept, ?_⟩
    rintro rfl
    obtain rfl := ledger.injective requestId other _ grant known
    rw [gone] at found
    cases found
  · intro further member
    rcases List.mem_append.mp member with old | new
    · exact ledger.spent further old
    · rw [List.mem_singleton.mp new]
      exact ledger.bound requestId _ grant
  · intro other held found
    dsimp only at found ⊢
    by_cases mine : other = t
    · rw [mine, Function.update_self] at found
      cases found
      exact ⟨List.mem_append_right _ (List.mem_singleton_self _), granted⟩
    · rw [Function.update_of_ne mine] at found
      obtain ⟨spent, granted⟩ := ledger.tickets other held found
      exact ⟨List.mem_append_left _ spent, granted⟩
  · have fresh {other : Nat} {held : FillTicket} (found : audited.tickets other = some held) :
        held.grant ≠ ticket.grant := by
      intro equal
      exact unspent (equal ▸ (ledger.tickets other held found).1)
    intro first second one two oneHeld twoHeld equal
    dsimp only at oneHeld twoHeld
    by_cases mine : first = t
    · by_cases yours : second = t
      · rw [mine, yours]
      · rw [mine, Function.update_self] at oneHeld
        rw [Function.update_of_ne yours] at twoHeld
        cases oneHeld
        exact absurd equal.symm (fresh twoHeld)
    · rw [Function.update_of_ne mine] at oneHeld
      by_cases yours : second = t
      · rw [yours, Function.update_self] at twoHeld
        cases twoHeld
        exact absurd equal (fresh oneHeld)
      · rw [Function.update_of_ne yours] at twoHeld
        exact ledger.apart first second one two oneHeld twoHeld equal
  · intro grant member
    exact List.mem_append_left _ (ledger.sent grant member)
  · exact ledger.nodup

theorem Sound.consumption (sound : audited.Sound parseOrigin) {now generation : Nat}
    {requestId itemId : String} {offer : PendingOffer} {capability : FillCapability}
    {stage : VaultStage}
    (there : audited.background.tasks t =
      some ⟨.activeTab requestId itemId offer generation, none⟩)
    (found : audited.background.capabilities.get requestId = some capability)
    (binding : capability.binding =
      { generation
        tabId := offer.tabId
        documentId := offer.documentId
        origin := offer.origin
        formActionOrigin := offer.formActionOrigin })
    (young : now - capability.grantedAt ≤ maxCapabilityLifetimeMs)
    (quiet : Quiet audited.background next (some t))
    (gone : next.capabilities.get requestId = none)
    (goes : next.tasks t = some ⟨.fields offer generation, some stage⟩)
    (fields : ∀ chosen, FieldsStage parseOrigin itemId offer.origin chosen stage) :
    Sound parseOrigin (audited.recordConsumption t now requestId itemId offer next) := by
  have fill : audited.FillTask t offer itemId generation := sound.tasks t _ there
  obtain ⟨grant, known, unspent, -⟩ := sound.ledger.store requestId capability found
  simp only [recordConsumption, goes, found, known]
  constructor
  · exact sound.made
  · exact fun offer there => sound.pending offer (quiet.pending offer there)
  · exact sound.ledger.consume ⟨requestId, itemId, offer, capability, grant, now⟩ found known gone
      quiet.capabilities
  · intro other task known
    by_cases mine : other = t
    · subst mine
      cases goes.symm.trans known
      refine ⟨_, Function.update_self _ _ _, rfl, ?_, ⟨binding, young, fill.among⟩, ?_, stage, rfl,
        fields _⟩
      · exact fill.frame (fun _ => id) (fun _ => id) quiet.session
      · exact fun sent => unspent (sound.ledger.sent _ sent)
    · have apart : some t ≠ some other := fun same => mine (Option.some.inj same).symm
      have before : audited.background.tasks other = some task :=
        (quiet.tasks other apart).symm.trans known
      exact (sound.tasks other task before).frame (fun _ => id) (fun _ => id) quiet.session
        (Function.update_of_ne mine _ _) rfl fun _ _ => id
  · exact quiet.fills.trans sound.fills
  · exact sound.sendings

theorem Sound.lookup (sound : audited.Sound parseOrigin) {offer : PendingOffer} {generation : Nat}
    {progress : VaultProgress} {before : VaultStage} {now : Nat} {answer : VaultAnswer}
    (there : audited.background.tasks t = some ⟨.fields offer generation, some before⟩)
    (running : ∀ result, before ≠ .returned result)
    (resumed : audited.background.vault.resume parseOrigin sealPayload now before answer =
      some progress) :
    Sound parseOrigin (audited.recordResume t now (.vault answer)
      (audited.background.advance t (.fields offer generation) progress)) := by
  have quiet := Quiet.advance audited.background t (.fields offer generation) progress
  obtain ⟨ticket, fields⟩ := sound.tasks t _ there
  obtain ⟨stage, is, stays⟩ := fields.stage
  cases is
  have looked : audited.lookedUp t =
      audited.background.vault.state.bind fun state =>
        (state.items.get ticket.itemId).map ItemEntry.data := by
    rw [lookedUp, fields.held, Option.bind_some]
  rcases VaultManager.fieldsStage_resume stays running resumed with ⟨rfl, later⟩ | ⟨other, later⟩
  · simp only [recordResume, there, Option.map_some, recordLookup]
    apply sound.quiet quiet (fun _ => id)
    · intro other apart
      exact Function.update_of_ne (fun same => apart (congrArg some same.symm)) _ _
    · intro mine task same known
      cases same
      rw [Background.tasks_advance, Function.update_self] at known
      cases known
      refine ⟨ticket, fields.held, fields.same,
        fields.fill.frame (fun _ => id) (fun _ => id) quiet.session, fields.valid, fields.unsent,
        progress.stage, rfl, ?_⟩
      dsimp only
      rw [Function.update_self, looked]
      exact later
  · have kept : audited.recordResume t now (.vault answer)
        (audited.background.advance t (.fields offer generation) progress) =
          { audited with
            background := audited.background.advance t (.fields offer generation) progress } := by
      simp only [recordResume, there, Option.map_some]
      cases answer with
      | settled => exact absurd rfl other
      | _ => rfl
    rw [kept]
    apply sound.quietly quiet
    intro mine task same known
    cases same
    rw [Background.tasks_advance, Function.update_self] at known
    cases known
    exact ⟨ticket, fields.held, fields.same,
      fields.fill.frame (fun _ => id) (fun _ => id) quiet.session, fields.valid, fields.unsent,
      progress.stage, rfl, later⟩

theorem Sound.sending (sound : audited.Sound parseOrigin) {offer : PendingOffer}
    {fields : FillFields} {now : Nat}
    (there : audited.background.tasks t =
      some ⟨.fields offer audited.background.session.generation,
        some (.returned (.fields (some fields)))⟩) :
    Sound parseOrigin (audited.recordSending t now
      ({ audited.background with
          fills := audited.background.fills ++
            [FillMessage.mk offer.tabId offer.documentId offer.origin fields] }.suspend t
        (.sending audited.background.session.generation) none)) := by
  obtain ⟨ticket, task⟩ := sound.tasks t _ there
  obtain ⟨stage, is, stays⟩ := task.stage
  cases is
  obtain ⟨item, chosen, of⟩ := stays
  obtain ⟨sender, request, made⟩ := task.fill.made
  have same := task.same
  simp only [recordSending, Function.update_self, Background.suspend, List.getLast?_concat,
    task.held, chosen]
  constructor
  · exact sound.made
  · exact sound.pending
  · constructor
    · exact sound.ledger.bound
    · exact sound.ledger.injective
    · exact sound.ledger.store
    · exact sound.ledger.spent
    · exact sound.ledger.tickets
    · exact sound.ledger.apart
    · intro grant member
      simp only [sentGrants, List.map_append, List.map_cons, List.map_nil] at member
      rcases List.mem_append.mp member with old | new
      · exact sound.ledger.sent grant old
      · rw [List.mem_singleton.mp new]
        exact (sound.ledger.tickets t ticket task.held).1
    · simp only [sentGrants, List.map_append, List.map_cons, List.map_nil]
      exact List.nodup_append.mpr ⟨sound.ledger.nodup, List.nodup_singleton _, fun grant old other
        new equal => task.unsent (List.mem_singleton.mp new ▸ equal ▸ old)⟩
  · intro other known there
    by_cases mine : other = t
    · subst mine
      dsimp only at there
      rw [Function.update_self] at there
      cases there
      trivial
    · dsimp only at there
      rw [Function.update_of_ne mine] at there
      refine TaskOk.frame (sound.tasks other known there) (fun _ => id) (fun _ => id)
        (SessionOnward.refl _) rfl rfl ?_
      intro held has unsent member
      simp only [sentGrants, List.map_append, List.map_cons, List.map_nil] at member
      rcases List.mem_append.mp member with old | new
      · exact unsent old
      · exact mine (sound.ledger.apart other t held ticket has task.held
          (List.mem_singleton.mp new))
  · simp only [List.map_append, sound.fills]
    rfl
  · intro sending member
    rcases List.mem_append.mp member with old | new
    · exact sound.sendings sending old
    · rw [List.mem_singleton.mp new]
      subst same
      exact ⟨task.fill.active rfl, (sound.ledger.tickets t ticket task.held).2, task.valid, ⟨sender, request, made, sound.made _ made⟩, rfl, rfl,
        rfl, of⟩

theorem Sound.answered (sound : audited.Sound parseOrigin) {now : Nat} {answer : BackgroundAnswer}
    {response : BackgroundToPopup}
    (quiet : Quiet audited.background background none) :
    Sound parseOrigin (audited.recordResume t now answer (background.answer t response)) := by
  have whole : Quiet audited.background (background.answer t response) (some t) :=
    Quiet.trans ⟨quiet.session, quiet.capabilities, quiet.pending, quiet.fills,
      fun other _ => quiet.tasks other nofun⟩ (Quiet.answer background t response)
  have plain : ∀ task, (background.answer t response).tasks t = some task →
      task.handler.plain = true := fun _ => plain_answer
  have gone : (background.answer t response).tasks t = none := by
    rw [Background.tasks_answer, Function.update_self]
  have kept := sound.plain whole plain
  unfold recordResume
  split
  · simp only [recordGrant]
    split
    · rename_i granted
      apply sound.grant granted _ (fun other capability _ => whole.capabilities other capability) plain
      exact ⟨whole.session, fun _ _ => id, whole.pending, whole.fills, whole.tasks⟩
    · exact kept
  · simp only [recordConsumption, gone]
    exact kept
  · apply sound.quiet whole (fun _ => id)
    · intro other apart
      exact Function.update_of_ne (fun same => apart (congrArg some same.symm)) _ _
    · intro other task same there
      cases same
      exact taskOk_plain (plain task there)
  · simp only [recordSending, gone]
    exact kept
  · exact kept

theorem Sound.advance (sound : audited.Sound parseOrigin) {handler : Handler}
    {progress : VaultProgress} {stage : Option VaultStage}
    (there : audited.background.tasks t = some ⟨handler, stage⟩)
    (other : ∀ offer generation, handler ≠ .fields offer generation) :
    Sound parseOrigin
      { audited with background := audited.background.advance t handler progress } := by
  have quiet := Quiet.advance audited.background t handler progress
  apply sound.quietly quiet
  intro mine task same known
  cases same
  rw [Background.tasks_advance, Function.update_self] at known
  cases known
  cases handler with
  | fields offer generation => exact absurd rfl (other offer generation)
  | activeTab requestId itemId offer generation =>
      exact FillTask.frame (sound.tasks t _ there) (fun _ => id) (fun _ => id) quiet.session
  | _ => trivial

theorem recordResume_vault {task : HandlerTask} {now : Nat} {answer : VaultAnswer}
    (there : audited.background.tasks t = some task)
    (other : ∀ offer generation, task.handler ≠ .fields offer generation) :
    audited.recordResume t now (.vault answer) next = { audited with background := next } := by
  obtain ⟨handler, stage⟩ := task
  simp only [recordResume, there, Option.map_some]
  cases handler with
  | fields offer generation => exact absurd rfl (other offer generation)
  | _ => rfl

theorem Sound.resume (sound : audited.Sound parseOrigin) {now : Nat} {task : HandlerTask}
    {answer : BackgroundAnswer} (there : audited.background.tasks t = some task)
    (effect : Background.ResumeEffect parseOrigin sealPayload audited.background t now task answer
      next) : Sound parseOrigin (audited.recordResume t now answer next) := by
  cases effect with
  | vault stage answer progress at' running resumed =>
      obtain ⟨handler, held⟩ := task
      cases at'
      cases handler with
      | fields offer generation => exact sound.lookup there running resumed
      | _ =>
          rw [recordResume_vault there (fun _ _ same => by cases same)]
          exact sound.advance there (fun _ _ same => by cases same)
  | answered answer response ended => exact sound.answered (Quiet.refl _ none)
  | unlocked accountId apiOrigin requestId is =>
      subst is
      simp only [recordResume, there, Option.map_some]
      apply sound.plain _ fun _ => plain_suspend rfl
      apply Quiet.trans _ (Quiet.suspend _ t _ _)
      exact ⟨SessionOnward.markUnlocked _ now, fun _ _ => id, fun _ => id, rfl, fun _ _ => rfl⟩
  | loggedOut requestId is =>
      subst is
      simp only [recordResume, there, Option.map_some]
      apply sound.plain _ fun _ => plain_answer
      apply Quiet.trans _ (Quiet.answer _ t _)
      refine ⟨SessionOnward.lock _ .explicit, ?_, (fun _ found => by cases found), rfl, fun _ _ => rfl⟩
      intro requestId capability found
      simp [InsertionMap.get, InsertionMap.empty] at found
  | granted offer pending requestId is active pends same =>
      subst is
      have last : (audited.background.grantCandidates t now offer requestId).answers.getLast? =
          some (t, .candidates requestId offer.candidates) := by
        simp only [Background.grantCandidates, Background.answer, List.getLast?_concat]
      have put := InsertionMap.get_set_self audited.background.capabilities requestId
        { binding :=
            { generation := audited.background.session.generation
              tabId := offer.tabId
              documentId := offer.documentId
              origin := offer.origin
              formActionOrigin := offer.formActionOrigin }
          grantedAt := now
          source := offer.source }
      have granted : (audited.background.grantCandidates t now offer requestId).capabilities.get
          requestId = some _ := put
      simp only [recordResume, there, Option.map_some, recordGrant, last, granted]
      refine sound.grant (t := t) granted (Quiet.answer audited.background t _) ?_
        fun _ => plain_answer
      intro other capability different found
      simp only [Background.grantCandidates, Background.answer] at found
      rwa [InsertionMap.get_set_of_ne _ _ different] at found
  | filled offer fields requestId is =>
      subst is
      simp only [recordResume, there, Option.map_some]
      exact sound.sending there
  | refused requestId itemId offer binding tab is active =>
      exact sound.answered (Quiet.consume _ requestId binding now none)
  | consumed requestId itemId offer is active valid =>
      subst is
      obtain ⟨capability, found, binding, young, gone⟩ := FillCapabilityStore.consume_valid valid
      simp only [recordResume, there, Option.map_some]
      apply sound.consumption there found (Option.some.inj binding) young
      · exact (Quiet.consume audited.background requestId _ now (some t)).trans
          (Quiet.advance _ t _ _)
      · exact (Quiet.advance { audited.background with
          capabilities := (audited.background.capabilities.consume requestId _ now).1 } t _ _).gone
            gone
      · rw [Background.tasks_advance, Function.update_self]
      · exact fun _ => VaultManager.fieldsStage_fieldsFor now
  | sent generation delivered is =>
      subst is
      simp only [recordResume, there, Option.map_some]
      apply sound.plain (Quiet.resumeSending _ t generation delivered)
      intro task known
      simp only [Background.resumeSending] at known
      split at known
      · exact plain_answer known
      · exact plain_answer known
  | readAccount account is =>
      subst is
      simp only [recordResume, there, Option.map_some]
      apply sound.plain _ fun _ => plain_answer
      apply Quiet.trans _ (Quiet.answer _ t _)
      exact ⟨SessionOnward.refl _, fun _ _ => id, fun _ => id, rfl, fun _ _ => rfl⟩

variable {action : BackgroundAction}

theorem Sound.step (sound : audited.Sound parseOrigin) {last : AuditedBackground}
    (stepped : audited.step parseOrigin confirmApiOrigin sealPayload action = some last) :
    last.Sound parseOrigin := by
  simp only [AuditedBackground.step, Option.map_eq_some_iff] at stepped
  obtain ⟨next, stepped, rfl⟩ := stepped
  cases action with
  | lock =>
      cases stepped
      exact sound.quietly (Quiet.lockFor _ .explicit none) fun _ _ mine => by cases mine
  | popupClosed =>
      cases stepped
      exact sound.quietly (Quiet.lockFor _ .popupClosed none) fun _ _ mine => by cases mine
  | content now sender message =>
      cases stepped
      exact sound.content now sender message
  | popup t now trusted message =>
      simp only [Background.step] at stepped
      split at stepped <;> cases stepped
      obtain ⟨noted, effect⟩ := Background.popup_cases trusted message
      exact sound.popup effect
  | resume t now answer =>
      simp only [Background.step, Option.bind_eq_some_iff] at stepped
      obtain ⟨task, there, resumed⟩ := stepped
      exact sound.resume there (Background.resume_cases resumed)

end AuditedBackground

end ZenPass.Extension
