import ZenPass.Extension.FillAuthorization
import ZenPass.Extension.LockCompleteness

set_option autoImplicit false

namespace ZenPass.Extension

open Client KeyedStore Transition

namespace Background

section Handlers

variable (parseOrigin : String → Option ParsedOrigin)

/-- The message cancels the pending offer, or puts another one or none in its place. -/
def withdraws (background : Background) (now : Nat) (sender : Option TrustedContentSender)
    (message : Option ValidatedContentMessage) : Bool :=
  match sender, message with
  | some sender, some .cancelOffer =>
      background.pendingOffer.any fun offer => offer.tabId == sender.tabId
  | some sender, some (.offer request) =>
      (background.session.ensureActive now).active && request.pageUrl == sender.url &&
        match decideFill parseOrigin request
          (background.vault.candidatesFor parseOrigin sender.origin) with
        | .allowed _ => true
        | .refused _ => false
  | _, _ => false

def underWay (background : Background) (t : Nat) : Bool :=
  (background.tasks t).any fun task => (task.waitsWith background.session.generation).isSome

end Handlers

end Background

namespace AuditedBackground

variable (parseOrigin : String → Option ParsedOrigin)

def noFillUnderWay (audited : AuditedBackground) (background : Background) : Prop :=
  ∀ t ∈ audited.fillTasks, background.underWay t = false

/-- While a fill is under way, no message of a page takes the offer away, no other fill comes to its
end, and its own fields come before the capability is too old. -/
def Undisturbed (audited : AuditedBackground) : BackgroundAction → Prop
  | .content now sender message =>
      audited.background.withdraws parseOrigin now sender message = true →
        audited.noFillUnderWay (audited.background.checked now false)
  | .resume _ _ (.sent _) => audited.noFillUnderWay audited.background
  | .resume t now (.returned _) =>
      audited.background.underWay t = true →
        ∀ ticket ∈ audited.tickets t,
          now - ticket.capability.grantedAt ≤ maxCapabilityLifetimeMs
  | _ => True

structure Steady (audited : AuditedBackground) : Prop where
  waiting : ∀ t task offer, audited.background.tasks t = some task →
    task.waitsWith audited.background.session.generation = some offer →
      audited.background.pendingOffer = some offer
  sendings : ∀ sending ∈ audited.sendings, sending.pendingOffer = some sending.ticket.offer ∧
    sending.sentAt - sending.ticket.capability.grantedAt ≤ maxCapabilityLifetimeMs

end AuditedBackground

structure KeepsOffer (before after : Background) : Prop where
  session : SessionOnward before.session after.session
  pending : after.session.generation = before.session.generation →
    after.pendingOffer = before.pendingOffer

namespace KeepsOffer

variable {before middle after : Background}

theorem same (session : after.session = before.session)
    (pending : after.pendingOffer = before.pendingOffer) : KeepsOffer before after :=
  ⟨by rw [session]; exact SessionOnward.refl _, fun _ => pending⟩

theorem trans (first : KeepsOffer before middle) (second : KeepsOffer middle after) :
    KeepsOffer before after := by
  refine ⟨first.session.trans second.session, fun generation => ?_⟩
  have one := first.session.generation_le
  have two := second.session.generation_le
  rw [second.pending (by omega), first.pending (by omega)]

theorem locked (session : SessionOnward before.session after.session)
    (later : after.session.generation = before.session.generation + 1) :
    KeepsOffer before after := by
  refine ⟨session, fun generation => ?_⟩
  omega

theorem lockFor (background : Background) (reason : LockReason) :
    KeepsOffer background (background.lockFor reason) :=
  locked (SessionOnward.lock _ reason) rfl

theorem answer (background : Background) (t : Nat) (response : BackgroundToPopup) :
    KeepsOffer background (background.answer t response) := same rfl rfl

theorem suspend (background : Background) (t : Nat) (handler : Handler)
    (stage : Option VaultStage) : KeepsOffer background (background.suspend t handler stage) :=
  same rfl rfl

theorem advance (background : Background) (t : Nat) (handler : Handler)
    (progress : VaultProgress) : KeepsOffer background (background.advance t handler progress) := by
  simp only [Background.advance]
  apply trans _ (suspend _ t handler _)
  have stepped : KeepsOffer background
      { background with
        vault := progress.vault
        uploads := background.uploads ++ progress.uploaded.toList } := same rfl rfl
  split
  · exact stepped.trans (lockFor _ .explicit)
  · exact stepped

theorem checked (background : Background) (now : Nat) (noted : Bool) :
    KeepsOffer background (background.checked now noted) :=
  ⟨(AuditedBackground.Quiet.checked background now noted none).session, fun _ => rfl⟩

theorem startUnlock (confirmApiOrigin : String → Option String) (background : Background) (t : Nat)
    (accountId apiOrigin : String) :
    KeepsOffer background (background.startUnlock confirmApiOrigin t accountId apiOrigin) := by
  simp only [Background.startUnlock]
  apply trans _ (advance _ t _ _)
  split
  · exact lockFor background .explicit
  · exact same rfl rfl

theorem popup {confirmApiOrigin : String → Option String} {background next : Background} {t : Nat}
    (effect : Background.PopupEffect confirmApiOrigin background t next) :
    KeepsOffer background next := by
  cases effect with
  | answered response => exact answer background t response
  | locked response => exact (lockFor background .explicit).trans (answer _ t response)
  | readsAccount => exact suspend background t _ _
  | selected => exact suspend background t _ _
  | called handler progress => exact advance background t handler progress
  | loggingOut => exact advance background t _ _
  | unlocking accountId apiOrigin =>
      exact startUnlock confirmApiOrigin background t accountId apiOrigin

theorem resume {parseOrigin : String → Option ParsedOrigin}
    {sealPayload : SealRequest → Option Wire.Bytes} {background next : Background} {t now : Nat}
    {task : HandlerTask} {answer : BackgroundAnswer}
    (effect : Background.ResumeEffect parseOrigin sealPayload background t now task answer next)
    (unsent : ∀ delivered, answer ≠ .sent delivered) : KeepsOffer background next := by
  cases effect with
  | vault stage answer progress => exact advance background t _ progress
  | answered answer response => exact KeepsOffer.answer background t response
  | unlocked accountId apiOrigin =>
      exact ⟨SessionOnward.markUnlocked _ now, fun _ => rfl⟩
  | loggedOut => exact locked (SessionOnward.lock _ .explicit) rfl
  | granted => exact same rfl rfl
  | filled => exact same rfl rfl
  | refused => exact same rfl rfl
  | consumed =>
      apply trans _ (advance _ t _ _)
      exact same rfl rfl
  | sent generation delivered => exact absurd rfl (unsent delivered)
  | readAccount => exact same rfl rfl

end KeepsOffer

theorem HandlerTask.waitsWith_eq_some {task : HandlerTask} {generation : Nat} {offer : PendingOffer} :
    task.waitsWith generation = some offer ↔
      (∃ requestId itemId, task.handler = .activeTab requestId itemId offer generation) ∨
        task.handler = .fields offer generation := by
  obtain ⟨handler, stage⟩ := task
  cases handler with
  | activeTab requestId itemId held captured =>
      simp only [waitsWith]
      split
      next same => simp [same]
      next other => simp [other]
  | fields held captured =>
      simp only [waitsWith]
      split
      next same => simp [same]
      next other => simp [other]
  | _ => simp [waitsWith]

theorem HandlerTask.waitsWith_plain {task : HandlerTask} (plain : task.handler.plain = true)
    (generation : Nat) : task.waitsWith generation = none := by
  obtain ⟨handler, stage⟩ := task
  cases handler with
  | activeTab => cases plain
  | fields => cases plain
  | _ => rfl

namespace AuditedBackground

variable {parseOrigin : String → Option ParsedOrigin} {confirmApiOrigin : String → Option String}
  {sealPayload : SealRequest → Option Wire.Bytes} {audited : AuditedBackground}
  {next : Background} {t : Nat} {task : HandlerTask} {offer : PendingOffer}

theorem Sound.fillTask (sound : audited.Sound parseOrigin) {generation : Nat}
    (there : audited.background.tasks t = some task)
    (waits : task.waitsWith generation = some offer) :
    ∃ itemId, audited.FillTask t offer itemId generation := by
  have ok := sound.tasks t task there
  obtain ⟨handler, stage⟩ := task
  rcases HandlerTask.waitsWith_eq_some.mp waits with ⟨requestId, itemId, is⟩ | is
  · cases is
    exact ⟨itemId, ok⟩
  · cases is
    obtain ⟨ticket, fields⟩ := ok
    exact ⟨ticket.itemId, fields.fill⟩

theorem Sound.generation_same (sound : audited.Sound parseOrigin) {later : SessionStateMachine}
    (there : audited.background.tasks t = some task)
    (session : SessionOnward audited.background.session later)
    (waits : task.waitsWith later.generation = some offer) :
    later.generation = audited.background.session.generation := by
  obtain ⟨itemId, fill⟩ := sound.fillTask there waits
  have reached := fill.reached
  have onward := session.generation_le
  omega

theorem Sound.underWay (sound : audited.Sound parseOrigin)
    (there : audited.background.tasks t = some task)
    (waits : task.waitsWith audited.background.session.generation = some offer) :
    t ∈ audited.fillTasks ∧ audited.background.underWay t = true := by
  obtain ⟨itemId, fill⟩ := sound.fillTask there waits
  refine ⟨fill.listed, ?_⟩
  rw [Background.underWay, there, Option.any_some, waits]
  rfl

theorem Steady.other (steady : audited.Steady) (sound : audited.Sound parseOrigin)
    (keeps : KeepsOffer audited.background next)
    (there : audited.background.tasks t = some task)
    (waits : task.waitsWith next.session.generation = some offer) :
    next.pendingOffer = some offer := by
  have same := sound.generation_same there keeps.session waits
  rw [keeps.pending same]
  rw [same] at waits
  exact steady.waiting t task offer there waits

theorem record_sendings {action : BackgroundAction} {sending : Sending}
    (member : sending ∈ (audited.record action next).sendings) :
    sending ∈ audited.sendings ∨
      ∃ t now requestId task offer generation, action = .resume t now (.returned requestId) ∧
        audited.background.tasks t = some task ∧ task.handler = .fields offer generation ∧
        (next.tasks t).isSome = true ∧ audited.tickets t = some sending.ticket ∧
        sending.pendingOffer = audited.background.pendingOffer ∧ sending.sentAt = now := by
  cases action with
  | lock => exact .inl member
  | popupClosed => exact .inl member
  | content now sender message =>
      simp only [record, recordContent] at member
      split at member
      · split at member
        · exact .inl member
        · exact .inl member
      · exact .inl member
  | popup t now trusted message =>
      simp only [record, recordPopup] at member
      split at member
      · exact .inl member
      · exact .inl member
  | resume t now answer =>
      simp only [record, recordResume] at member
      split at member
      · simp only [recordGrant] at member
        split at member
        · exact .inl member
        · exact .inl member
      · simp only [recordConsumption] at member
        split at member
        · exact .inl member
        · exact .inl member
      · exact .inl member
      · rename_i offer generation requestId handler
        simp only [recordSending] at member
        split at member
        · rename_i goes last held chosen
          rcases List.mem_append.mp member with old | new
          · exact .inl old
          · obtain ⟨task, there, is⟩ := Option.map_eq_some_iff.mp handler
            rw [List.mem_singleton.mp new]
            exact .inr ⟨t, now, requestId, task, offer, generation, rfl, there, is,
              by rw [goes]; rfl, held, rfl, rfl⟩
        · exact .inl member
      · exact .inl member

theorem generation_of_returned {now : Nat} {requestId : String} {generation : Nat}
    (handler : task.handler = .fields offer generation)
    (effect : Background.ResumeEffect parseOrigin sealPayload audited.background t now task
      (.returned requestId) next) (goes : (next.tasks t).isSome = true) :
    generation = audited.background.session.generation := by
  cases effect with
  | answered answer response =>
      rw [Background.tasks_answer, Function.update_self] at goes
      cases goes
  | unlocked accountId apiOrigin requestId is =>
      rw [is] at handler
      cases handler
  | loggedOut requestId is =>
      rw [is] at handler
      cases handler
  | granted offer pending requestId is =>
      rw [is] at handler
      cases handler
  | filled offer fields requestId is =>
      rw [is] at handler
      cases handler
      rfl

theorem Steady.sending (steady : audited.Steady) (sound : audited.Sound parseOrigin)
    {action : BackgroundAction} (undisturbed : audited.Undisturbed parseOrigin action)
    (stepped : audited.background.step parseOrigin confirmApiOrigin sealPayload action = some next)
    {sending : Sending} (member : sending ∈ (audited.record action next).sendings) :
    sending.pendingOffer = some sending.ticket.offer ∧
      sending.sentAt - sending.ticket.capability.grantedAt ≤ maxCapabilityLifetimeMs := by
  rcases record_sendings member with old |
    ⟨t, now, requestId, task, offer, generation, rfl, there, handler, goes, held, pending, sentAt⟩
  · exact steady.sendings sending old
  · simp only [Background.step, there, Option.bind_some] at stepped
    obtain rfl := generation_of_returned handler (Background.resume_cases stepped) goes
    have waits : task.waitsWith audited.background.session.generation = some offer :=
      HandlerTask.waitsWith_eq_some.mpr (.inr handler)
    have ok := sound.tasks t task there
    simp only [TaskOk, handler] at ok
    obtain ⟨ticket, fields⟩ := ok
    cases held.symm.trans fields.held
    rw [pending, fields.same, sentAt]
    exact ⟨steady.waiting t task offer there waits,
      undisturbed (sound.underWay there waits).2 _ held⟩

theorem Steady.onward (steady : audited.Steady) (sound : audited.Sound parseOrigin)
    (acting : Option Nat) (keeps : KeepsOffer audited.background next)
    (others : ∀ other, acting ≠ some other → next.tasks other = audited.background.tasks other)
    (own : ∀ t task offer, acting = some t → next.tasks t = some task →
      task.waitsWith next.session.generation = some offer → next.pendingOffer = some offer) :
    ∀ t task offer, next.tasks t = some task →
      task.waitsWith next.session.generation = some offer → next.pendingOffer = some offer := by
  intro t task offer there waits
  by_cases mine : acting = some t
  · exact own t task offer mine there waits
  · rw [others t mine] at there
    exact steady.other sound keeps there waits

theorem Steady.lockFor (steady : audited.Steady) (sound : audited.Sound parseOrigin)
    (reason : LockReason) :
    ∀ t task offer, (audited.background.lockFor reason).tasks t = some task →
      task.waitsWith (audited.background.lockFor reason).session.generation = some offer →
        (audited.background.lockFor reason).pendingOffer = some offer :=
  fun _ _ _ there waits =>
    steady.other sound (KeepsOffer.lockFor audited.background reason) there waits

theorem Steady.popup (steady : audited.Steady) (sound : audited.Sound parseOrigin) {now : Nat}
    {noted : Bool}
    (effect : Background.PopupEffect confirmApiOrigin (audited.background.checked now noted) t
      next) :
    ∀ t task offer, next.tasks t = some task →
      task.waitsWith next.session.generation = some offer → next.pendingOffer = some offer := by
  have keeps := (KeepsOffer.checked audited.background now noted).trans (KeepsOffer.popup effect)
  apply steady.onward sound (some t) keeps
  · intro other apart
    exact effect.tasks fun same => apart (congrArg some same.symm)
  · intro mine task offer same there waits
    cases same
    rcases popup_plain effect with plain | ⟨requestId, itemId, held, active, pending, among, rfl⟩
    · rw [HandlerTask.waitsWith_plain (plain task there)] at waits
      cases waits
    · rw [Background.tasks_suspend, Function.update_self] at there
      cases there
      rcases HandlerTask.waitsWith_eq_some.mp waits with ⟨_, _, is⟩ | is
      · cases is
        exact pending
      · cases is

theorem resume_after {now : Nat} {after : HandlerTask} {answer : BackgroundAnswer}
    (effect : Background.ResumeEffect parseOrigin sealPayload audited.background t now task answer
      next) (there : next.tasks t = some after) :
    after.handler.plain = true ∨ after.handler = task.handler ∨
      ∃ requestId itemId offer generation,
        task.handler = .activeTab requestId itemId offer generation ∧
          after.handler = .fields offer generation := by
  cases effect with
  | vault stage answer progress =>
      rw [Background.tasks_advance, Function.update_self] at there
      cases there
      exact .inr (.inl rfl)
  | answered => exact .inl (plain_answer there)
  | unlocked => exact .inl (plain_suspend rfl there)
  | loggedOut => exact .inl (plain_answer there)
  | granted => exact .inl (plain_answer there)
  | filled => exact .inl (plain_suspend rfl there)
  | refused => exact .inl (plain_answer there)
  | consumed requestId itemId held is =>
      rw [Background.tasks_advance, Function.update_self] at there
      cases there
      exact .inr (.inr ⟨requestId, itemId, held, _, by rw [is], rfl⟩)
  | sent generation delivered =>
      simp only [Background.resumeSending] at there
      split at there
      · exact .inl (plain_answer there)
      · exact .inl (plain_answer there)
  | readAccount => exact .inl (plain_answer there)

theorem resume_waits {now generation : Nat} {after : HandlerTask} {answer : BackgroundAnswer}
    (effect : Background.ResumeEffect parseOrigin sealPayload audited.background t now task answer
      next) (there : next.tasks t = some after)
    (waits : after.waitsWith generation = some offer) :
    task.waitsWith generation = some offer := by
  rcases resume_after effect there with plain | same | ⟨requestId, itemId, held, captured, is, goes⟩
  · rw [HandlerTask.waitsWith_plain plain] at waits
    cases waits
  · rw [HandlerTask.waitsWith_eq_some] at waits ⊢
    rwa [same] at waits
  · rw [HandlerTask.waitsWith_eq_some] at waits ⊢
    rcases waits with ⟨_, _, other⟩ | same
    · cases goes.symm.trans other
    · cases goes.symm.trans same
      exact .inl ⟨requestId, itemId, is⟩

theorem Steady.resume (steady : audited.Steady) (sound : audited.Sound parseOrigin) {now : Nat}
    {answer : BackgroundAnswer}
    (undisturbed : audited.Undisturbed parseOrigin (.resume t now answer))
    (there : audited.background.tasks t = some task)
    (effect : Background.ResumeEffect parseOrigin sealPayload audited.background t now task answer
      next) :
    ∀ t task offer, next.tasks t = some task →
      task.waitsWith next.session.generation = some offer → next.pendingOffer = some offer := by
  by_cases other : ∃ delivered, answer = .sent delivered
  · -- No fill is under way, so none is left with the offer that is dropped.
    obtain ⟨delivered, rfl⟩ := other
    intro other after offer known waits
    exfalso
    have session : SessionOnward audited.background.session next.session := by
      cases effect with
      | answered => exact SessionOnward.refl _
      | sent generation => exact (Quiet.resumeSending _ t generation delivered).session
    have before : ∃ held, audited.background.tasks other = some held ∧
        held.waitsWith next.session.generation = some offer := by
      by_cases mine : other = t
      · subst mine
        exact ⟨task, there, resume_waits effect known waits⟩
      · rw [effect.tasks mine] at known
        exact ⟨after, known, waits⟩
    obtain ⟨held, holds, waits⟩ := before
    rw [sound.generation_same holds session waits] at waits
    obtain ⟨listed, busy⟩ := sound.underWay holds waits
    rw [undisturbed other listed] at busy
    cases busy
  · have unsent : ∀ delivered, answer ≠ .sent delivered := fun delivered is => other ⟨delivered, is⟩
    have keeps := KeepsOffer.resume effect unsent
    apply steady.onward sound (some t) keeps
    · intro other apart
      exact effect.tasks fun same => apart (congrArg some same.symm)
    · intro mine after offer same known waits
      cases same
      exact steady.other sound keeps there (resume_waits effect known waits)

theorem content_keeps (background : Background) (now : Nat) (sender : Option TrustedContentSender)
    (message : Option ValidatedContentMessage)
    (stays : background.withdraws parseOrigin now sender message = false) :
    KeepsOffer background (background.handleContentMessage parseOrigin now sender message).1 := by
  have checked := KeepsOffer.checked background now false
  unfold Background.handleContentMessage
  dsimp only
  split
  · exact checked
  · exact checked
  · split
    · rename_i mine
      exact absurd (stays.symm.trans mine) Bool.false_ne_true
    · exact checked
  · split
    · exact checked
    · rename_i active
      simp only [Bool.not_eq_true', Bool.not_eq_false] at active
      split
      · exact checked
      · rename_i page
        split
        · exact checked
        · rename_i decided
          simp only [Background.withdraws, active, not_not.mp page, beq_self_eq_true, decided,
            Bool.and_self, Bool.true_eq_false] at stays

theorem Steady.content (steady : audited.Steady) (sound : audited.Sound parseOrigin) {now : Nat}
    {sender : Option TrustedContentSender} {message : Option ValidatedContentMessage}
    (undisturbed : audited.Undisturbed parseOrigin (.content now sender message)) :
    let next := (audited.background.handleContentMessage parseOrigin now sender message).1
    ∀ t task offer, next.tasks t = some task →
      task.waitsWith next.session.generation = some offer → next.pendingOffer = some offer := by
  intro next
  have effect : Background.ContentEffect parseOrigin _ next :=
    Background.content_cases audited.background now sender message
  cases withdrawn : audited.background.withdraws parseOrigin now sender message with
  | false =>
      apply steady.onward sound none (content_keeps _ now sender message withdrawn)
      · exact fun other _ => congrFun effect.tasks other
      · intro t task offer same
        cases same
  | true =>
      have noFill := undisturbed withdrawn
      intro t task offer there waits
      rw [effect.session] at waits
      rw [effect.tasks] at there
      have busy : (audited.background.checked now false).underWay t = true := by
        rw [Background.underWay, there, Option.any_some, waits]
        rfl
      have onward := (Quiet.checked audited.background now false none).session
      have same := sound.generation_same there onward waits
      rw [same] at waits
      rw [noFill t (sound.underWay there waits).1] at busy
      cases busy

variable {action : BackgroundAction} {last : AuditedBackground}

theorem Steady.step (steady : audited.Steady) (sound : audited.Sound parseOrigin)
    (undisturbed : audited.Undisturbed parseOrigin action)
    (stepped : audited.step parseOrigin confirmApiOrigin sealPayload action = some last) :
    last.Steady := by
  simp only [AuditedBackground.step, Option.map_eq_some_iff] at stepped
  obtain ⟨next, stepped, rfl⟩ := stepped
  refine ⟨?_, fun sending member => steady.sending sound undisturbed stepped member⟩
  rw [record_background]
  cases action with
  | lock =>
      cases stepped
      exact steady.lockFor sound .explicit
  | popupClosed =>
      cases stepped
      exact steady.lockFor sound .popupClosed
  | content now sender message =>
      cases stepped
      exact steady.content sound undisturbed
  | popup t now trusted message =>
      simp only [Background.step] at stepped
      split at stepped <;> cases stepped
      obtain ⟨noted, effect⟩ := Background.popup_cases trusted message
      exact steady.popup sound effect
  | resume t now answer =>
      simp only [Background.step, Option.bind_eq_some_iff] at stepped
      obtain ⟨task, there, resumed⟩ := stepped
      exact steady.resume sound undisturbed there (Background.resume_cases resumed)

theorem steady_initial : Steady {} where
  waiting _ _ _ there := by cases there
  sendings _ member := by cases member

theorem run_sound {actions : List BackgroundAction}
    (ran : run (step parseOrigin confirmApiOrigin sealPayload) {} actions = some last) :
    last.Sound parseOrigin :=
  run_preserves (fun _ _ _ sound stepped => sound.step stepped) sound_initial ran

theorem run_steady {actions : List BackgroundAction}
    (ran : run (step parseOrigin confirmApiOrigin sealPayload) {} actions = some last)
    (undisturbed : Every (step parseOrigin confirmApiOrigin sealPayload)
      (Undisturbed parseOrigin) {} actions) : last.Steady := by
  have kept (audited : AuditedBackground) (action : BackgroundAction) (next : AuditedBackground)
      (held : audited.Sound parseOrigin ∧ audited.Steady)
      (undisturbed : audited.Undisturbed parseOrigin action)
      (stepped : audited.step parseOrigin confirmApiOrigin sealPayload action = some next) :
      next.Sound parseOrigin ∧ next.Steady :=
    ⟨held.1.step stepped, held.2.step held.1 undisturbed stepped⟩
  exact (run_invariant kept ⟨sound_initial, steady_initial⟩ undisturbed ran).2

end AuditedBackground

def SameOrigin (parseOrigin : String → Option ParsedOrigin) (request : PageRequest)
    (item : VaultItemData) : Prop :=
  ∃ page, parseOrigin request.pageUrl = some page ∧ page.scheme = "https:" ∧
    (∀ action ∈ request.formAction, parseOrigin action = some page) ∧
    parseOrigin (item.url.getD "") = some page

namespace Sending

variable (parseOrigin : String → Option ParsedOrigin)

/-- The fill went to the document that made its offer, for a candidate of this offer, under a
capability of the unlocked generation that was consumed in its lifetime. -/
structure Proper (made : List OfferMade) (grants : List FillCapability) (sending : Sending) :
    Prop where
  active : sending.session.active = true
  granted : grants[sending.ticket.grant]? = some sending.ticket.capability
  generation : sending.ticket.capability.binding.generation = sending.session.generation
  consumed : sending.ticket.consumedAt - sending.ticket.capability.grantedAt ≤
    maxCapabilityLifetimeMs
  among : ∃ candidate ∈ sending.ticket.offer.candidates, candidate.id = sending.ticket.itemId
  offered : ∃ sender request, ⟨sending.ticket.offer, sender, request⟩ ∈ made ∧
    sending.message.tabId = sender.tabId ∧ sender.documentId = some sending.message.documentId ∧
    request.pageUrl = sender.url ∧ SameOrigin parseOrigin request sending.item
  origin : sending.message.origin = sending.ticket.offer.origin
  fields : FieldsOf parseOrigin sending.item sending.message.origin sending.message.fields

structure InTime (sending : Sending) : Prop where
  pending : sending.pendingOffer = some sending.ticket.offer
  young : sending.sentAt - sending.ticket.capability.grantedAt ≤ maxCapabilityLifetimeMs

end Sending

variable {parseOrigin : String → Option ParsedOrigin} {confirmApiOrigin : String → Option String}
  {sealPayload : SealRequest → Option Wire.Bytes}

theorem matchOrigin_eq_true {itemOrigin pageOrigin : String} {page : ParsedOrigin}
    (parsed : parseOrigin pageOrigin = some page) :
    matchOrigin parseOrigin itemOrigin pageOrigin = true ↔
      parseOrigin itemOrigin = some page := by
  rw [matchOrigin, parsed]
  cases parseOrigin itemOrigin with
  | none => simp
  | some item => simp

theorem matchOrigin_comm (one other : String) :
    matchOrigin parseOrigin one other = matchOrigin parseOrigin other one := by
  simp only [matchOrigin]
  cases parseOrigin one with
  | none => cases parseOrigin other <;> rfl
  | some first =>
      cases parseOrigin other with
      | none => rfl
      | some second => exact Bool.beq_comm

theorem decideFill_allowed {request : PageRequest} {candidates allowed : List LoginCandidate}
    (decided : decideFill parseOrigin request candidates = .allowed allowed) :
    ∃ page, parseOrigin request.pageUrl = some page ∧ page.scheme = "https:" ∧
      (∀ action ∈ request.formAction, parseOrigin action = some page) ∧
      ∀ candidate ∈ allowed, candidate ∈ candidates ∧ parseOrigin candidate.origin = some page := by
  unfold decideFill at decided
  split at decided
  · cases decided
  · split at decided
    · cases decided
    · rename_i page parsed
      split at decided
      · cases decided
      · rename_i https
        split at decided
        · cases decided
        · split at decided
          · cases decided
          · rename_i form
            dsimp only at decided
            split at decided
            · cases decided
            · cases decided
              refine ⟨page, parsed, not_not.mp https, ?_, ?_⟩
              · intro action member
                rw [Option.mem_def.mp member, Option.any_some, Bool.not_eq_true',
                  Bool.not_eq_false] at form
                rw [← matchOrigin_eq_true parsed, matchOrigin_comm]
                exact form
              · intro candidate member
                obtain ⟨among, same⟩ := List.mem_filter.mp member
                exact ⟨among, (matchOrigin_eq_true parsed).mp same⟩

theorem Sending.Authorized.proper {made : List OfferMade} {grants : List FillCapability}
    {sending : Sending} (authorized : sending.Authorized parseOrigin made grants) :
    sending.Proper parseOrigin made grants := by
  obtain ⟨sender, request, there, known⟩ := authorized.offered
  obtain ⟨candidates, origins, decided⟩ := known.decided
  obtain ⟨page, parsed, https, form, allowed⟩ := decideFill_allowed decided
  obtain ⟨candidate, among, is⟩ := List.any_eq_true.mp authorized.valid.among
  have url := authorized.fields.url
  refine ⟨authorized.active, authorized.granted, ?_, authorized.valid.young,
    ⟨candidate, among, beq_iff_eq.mp is⟩, ⟨sender, request, there, ?_, ?_, known.page, page, parsed,
    https, form, ?_⟩, authorized.origin, ?_⟩
  · rw [authorized.valid.binding]
  · rw [authorized.tab, known.tab]
  · rw [authorized.document, known.document]
  · obtain ⟨listed, same⟩ := allowed candidate among
    rw [origins candidate listed, known.origin] at same
    rw [VaultManager.urlMatches, Bool.and_eq_true, matchOrigin_eq_true same] at url
    exact url.2
  · rw [authorized.origin]
    exact authorized.fields

/-- In every interleaving, each fill is proper and has a grant of its own. It is also in time if
nothing disturbs a fill that is under way. -/
theorem fill_authorization {actions : List BackgroundAction} {final : Background}
    (ran : run (Background.step parseOrigin confirmApiOrigin sealPayload) {} actions =
      some final) :
    ∃ audited : AuditedBackground,
      run (AuditedBackground.step parseOrigin confirmApiOrigin sealPayload) {} actions =
        some audited ∧
      audited.background = final ∧
      final.fills = audited.sendings.map Sending.message ∧
      audited.sentGrants.Nodup ∧
      (∀ sending ∈ audited.sendings, sending.Proper parseOrigin audited.made audited.grants) ∧
      (Every (AuditedBackground.step parseOrigin confirmApiOrigin sealPayload)
          (AuditedBackground.Undisturbed parseOrigin) {} actions →
        ∀ sending ∈ audited.sendings, sending.InTime) := by
  obtain ⟨audited, audit, rfl⟩ := AuditedBackground.run_audited {} ran
  have sound := AuditedBackground.run_sound audit
  refine ⟨audited, audit, rfl, sound.fills, sound.ledger.nodup,
    fun sending member => (sound.sendings sending member).proper, fun undisturbed sending member => ?_⟩
  have steady := AuditedBackground.run_steady audit undisturbed
  exact ⟨(steady.sendings sending member).1, (steady.sendings sending member).2⟩

section Samples

instance (audited : AuditedBackground) (background : Background) :
    Decidable (audited.noFillUnderWay background) := by
  unfold AuditedBackground.noFillUnderWay
  infer_instance

instance (audited : AuditedBackground) (action : BackgroundAction) :
    Decidable (audited.Undisturbed parseOrigin action) :=
  match action with
  | .content now sender message =>
      inferInstanceAs (Decidable (audited.background.withdraws parseOrigin now sender message = true →
        audited.noFillUnderWay (audited.background.checked now false)))
  | .resume _ _ (.sent _) => inferInstanceAs (Decidable (audited.noFillUnderWay audited.background))
  | .resume t now (.returned _) =>
      inferInstanceAs (Decidable (audited.background.underWay t = true →
        ∀ ticket ∈ audited.tickets t, now - ticket.capability.grantedAt ≤ maxCapabilityLifetimeMs))
  | .resume _ _ (.vault _) | .resume _ _ (.savedAccount _) | .resume _ _ .accountStored
  | .resume _ _ (.activeTab _) | .lock | .popupClosed | .popup _ _ _ _ =>
      inferInstanceAs (Decidable True)

def sampleLogin : VaultItemData where
  type := "login"
  title := "Mail"
  username := some "alice"
  password := some "secret"
  url := some "https://mail.test"
  notes := none
  totpSecret := none

def samplePage : Option TrustedContentSender :=
  some ⟨7, "https://mail.test", "https://mail.test", some "document"⟩

def chosenFill (meanwhile : List BackgroundAction) : List BackgroundAction :=
  (Background.unlockSteps 1 0).dropLast ++
    [.resume 1 0 (.vault (.changes ⟨[⟨"item", 1, false, some sampleLogin⟩], none⟩)),
      .resume 1 0 (.returned ""), .resume 1 0 .accountStored,
      .content 1 samplePage
        (some (.offer ⟨"https://mail.test", true, some "https://mail.test", true, true⟩)),
      .popup 2 2 true (some .requestCandidates), .resume 2 2 (.returned "grant"),
      .popup 3 3 true (some (.fillSelected "grant" "item"))] ++
    meanwhile ++
    [.resume 3 5 (.activeTab (some (7, "https://mail.test"))), .resume 3 5 (.vault .settled),
      .resume 3 5 (.returned "")]

def sampleAudit (audited : AuditedBackground) (action : BackgroundAction) :
    Option AuditedBackground :=
  audited.step (fun url => some ⟨"https:", url, "443"⟩) some (fun _ => some [1, 2, 3]) action

theorem fill_authorization_chosen :
    ∃ audited, run sampleAudit {} (chosenFill []) = some audited ∧
      audited.sendings.length = 1 ∧ ∀ sending ∈ audited.sendings,
        sending.Proper (fun url => some ⟨"https:", url, "443"⟩) audited.made audited.grants ∧
          sending.InTime := by
  have ran : run Background.sampleStep {} (chosenFill []) = some _ :=
    run_reached (by decide +kernel)
  obtain ⟨audited, audit, -, fills, -, proper, inTime⟩ := fill_authorization ran
  have prompt := inTime (by decide +kernel)
  have one : (reached Background.sampleStep {}
      (chosenFill [])).fills.length = 1 := by decide +kernel
  refine ⟨audited, audit, ?_, fun sending member =>
    ⟨proper sending member, prompt sending member⟩⟩
  rw [fills, List.length_map] at one
  exact one

/-- The page cancels its offer while the active tab is asked for, and the fields are sent to it. -/
theorem cancelled_offer_filled :
    ¬ ∀ (actions : List BackgroundAction) (audited : AuditedBackground),
      run sampleAudit {} actions = some audited →
        ∀ sending ∈ audited.sendings, sending.pendingOffer = some sending.ticket.offer := by
  intro always
  have cancelled : ¬ ∀ sending ∈ (reached sampleAudit {}
      (chosenFill [.content 4 samplePage (some .cancelOffer)])).sendings,
      sending.pendingOffer.isSome = true := by decide +kernel
  apply cancelled
  intro sending member
  rw [always _ _ (run_reached (by decide +kernel)) sending member]
  rfl

end Samples

end ZenPass.Extension
