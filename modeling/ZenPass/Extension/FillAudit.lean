import ZenPass.Extension.BackgroundSteps

set_option autoImplicit false

-- The background with a history that no code reads: which message made an offer, which grant a
-- capability comes from, what a fill has consumed and what it was sent under.

namespace ZenPass.Extension

open Client KeyedStore Transition

structure OfferMade where
  offer : PendingOffer
  sender : TrustedContentSender
  request : PageRequest
deriving DecidableEq, Repr

/-- A capability that a fill has consumed; `grant` is its place among the grants. -/
structure FillTicket where
  requestId : String
  itemId : String
  offer : PendingOffer
  capability : FillCapability
  grant : Nat
  consumedAt : Nat
deriving DecidableEq, Repr

structure Sending where
  message : FillMessage
  ticket : FillTicket
  item : VaultItemData
  session : SessionStateMachine
  pendingOffer : Option PendingOffer
  sentAt : Nat

/-- `grantOf` is the place of a request id's last grant, `fillTasks` lists the tasks that a fill has
been started in, and `chosen` is the item that a task has looked up last. -/
structure AuditedBackground where
  background : Background := {}
  made : List OfferMade := []
  grants : List FillCapability := []
  grantOf : String → Option Nat := fun _ => none
  spent : List Nat := []
  fillTasks : List Nat := []
  tickets : Nat → Option FillTicket := fun _ => none
  chosen : Nat → Option VaultItemData := fun _ => none
  sendings : List Sending := []

def HandlerTask.waitsWith (task : HandlerTask) (generation : Nat) : Option PendingOffer :=
  match task.handler with
  | .activeTab _ _ offer captured => if captured = generation then some offer else none
  | .fields offer captured => if captured = generation then some offer else none
  | _ => none

namespace AuditedBackground

def recordContent (audited : AuditedBackground) (sender : Option TrustedContentSender)
    (message : Option ValidatedContentMessage) (next : Background) : AuditedBackground :=
  let same := { audited with background := next }
  match sender, message, next.pendingOffer with
  | some sender, some (.offer request), some offer =>
      if next.offers = audited.background.offers then same
      else { same with made := audited.made ++ [⟨offer, sender, request⟩] }
  | _, _, _ => same

def recordPopup (audited : AuditedBackground) (t : Nat) (next : Background) : AuditedBackground :=
  let same := { audited with background := next }
  match (next.tasks t).map HandlerTask.handler with
  | some (.activeTab _ _ _ _) => { same with fillTasks := t :: audited.fillTasks }
  | _ => same

def recordGrant (audited : AuditedBackground) (requestId : String) (next : Background) :
    AuditedBackground :=
  let same := { audited with background := next }
  match next.answers.getLast?, next.capabilities.get requestId with
  | some (_, .candidates _ _), some capability =>
      { same with
        grants := audited.grants ++ [capability]
        grantOf := Function.update audited.grantOf requestId (some audited.grants.length) }
  | _, _ => same

def recordConsumption (audited : AuditedBackground) (t now : Nat) (requestId itemId : String)
    (offer : PendingOffer) (next : Background) : AuditedBackground :=
  let same := { audited with background := next }
  match next.tasks t, audited.background.capabilities.get requestId, audited.grantOf requestId with
  | some _, some capability, some grant =>
      { same with
        spent := audited.spent ++ [grant]
        tickets := Function.update audited.tickets t
          (some ⟨requestId, itemId, offer, capability, grant, now⟩) }
  | _, _, _ => same

def lookedUp (audited : AuditedBackground) (t : Nat) : Option VaultItemData :=
  (audited.tickets t).bind fun ticket =>
    audited.background.vault.state.bind fun state =>
      (state.items.get ticket.itemId).map ItemEntry.data

def recordLookup (audited : AuditedBackground) (t : Nat) (next : Background) :
    AuditedBackground :=
  { audited with
    background := next
    chosen := Function.update audited.chosen t (audited.lookedUp t) }

def recordSending (audited : AuditedBackground) (t now : Nat) (next : Background) :
    AuditedBackground :=
  let same := { audited with background := next }
  match next.tasks t, next.fills.getLast?, audited.tickets t, audited.chosen t with
  | some _, some message, some ticket, some item =>
      { same with
        sendings := audited.sendings ++
          [⟨message, ticket, item, audited.background.session, audited.background.pendingOffer,
            now⟩] }
  | _, _, _, _ => same

def recordResume (audited : AuditedBackground) (t now : Nat) (answer : BackgroundAnswer)
    (next : Background) : AuditedBackground :=
  match (audited.background.tasks t).map HandlerTask.handler, answer with
  | some (.requestCandidates _), .returned requestId => audited.recordGrant requestId next
  | some (.activeTab requestId itemId offer _), .activeTab _ =>
      audited.recordConsumption t now requestId itemId offer next
  | some (.fields _ _), .vault .settled => audited.recordLookup t next
  | some (.fields _ _), .returned _ => audited.recordSending t now next
  | _, _ => { audited with background := next }

def record (audited : AuditedBackground) (action : BackgroundAction) (next : Background) :
    AuditedBackground :=
  match action with
  | .lock | .popupClosed => { audited with background := next }
  | .content _ sender message => audited.recordContent sender message next
  | .popup t _ _ _ => audited.recordPopup t next
  | .resume t now answer => audited.recordResume t now answer next

section Step

variable (parseOrigin : String → Option ParsedOrigin)
  (confirmApiOrigin : String → Option String) (sealPayload : SealRequest → Option Wire.Bytes)

def step (audited : AuditedBackground) (action : BackgroundAction) : Option AuditedBackground :=
  (audited.background.step parseOrigin confirmApiOrigin sealPayload action).map
    (audited.record action)

variable {parseOrigin confirmApiOrigin sealPayload}

theorem record_background (audited : AuditedBackground) (action : BackgroundAction) (next : Background) :
    (audited.record action next).background = next := by
  cases action with
  | lock => rfl
  | popupClosed => rfl
  | content now sender message =>
      simp only [record, recordContent]
      split
      · split <;> rfl
      · rfl
  | popup t now trusted message =>
      simp only [record, recordPopup]
      split <;> rfl
  | resume t now answer =>
      simp only [record, recordResume]
      split
      · simp only [recordGrant]
        split <;> rfl
      · simp only [recordConsumption]
        split <;> rfl
      · rfl
      · simp only [recordSending]
        split <;> rfl
      · rfl

theorem run_audited (audited : AuditedBackground) {actions : List BackgroundAction} {final : Background}
    (ran : run (Background.step parseOrigin confirmApiOrigin sealPayload) audited.background
      actions = some final) :
    ∃ last, run (step parseOrigin confirmApiOrigin sealPayload) audited actions = some last ∧
      last.background = final := by
  induction actions generalizing audited with
  | nil =>
      cases ran
      exact ⟨audited, rfl, rfl⟩
  | cons action rest ih =>
      rw [run_cons, Option.bind_eq_some_iff] at ran
      obtain ⟨next, stepped, ran⟩ := ran
      rw [← record_background audited action next] at ran
      obtain ⟨last, later, same⟩ := ih _ ran
      refine ⟨last, ?_, same⟩
      rw [run_cons, step, stepped]
      exact later

end Step

end AuditedBackground

structure FieldsOf (parseOrigin : String → Option ParsedOrigin) (data : VaultItemData)
    (pageOrigin : String) (fields : FillFields) : Prop where
  url : VaultManager.urlMatches parseOrigin data pageOrigin = true
  username : fields.username = data.username.getD ""
  password : fields.password = data.password.getD ""

def FieldsStage (parseOrigin : String → Option ParsedOrigin) (itemId pageOrigin : String)
    (chosen : Option VaultItemData) : VaultStage → Prop
  | .fresh _ purpose _ => purpose = .fieldsFor itemId pageOrigin
  | .computingFill _ fields => ∃ data, chosen = some data ∧ FieldsOf parseOrigin data pageOrigin fields
  | .returned (.fields none) => True
  | .returned (.fields (some fields)) =>
      ∃ data, chosen = some data ∧ FieldsOf parseOrigin data pageOrigin fields
  | _ => False

namespace VaultManager

variable {parseOrigin : String → Option ParsedOrigin} {sealPayload : SealRequest → Option Wire.Bytes}
  {vault : VaultManager} {itemId pageOrigin : String} {chosen : Option VaultItemData}
  {progress : VaultProgress}

theorem fieldsStage_checkedStage (owner : Nat) (ok : Bool) :
    FieldsStage parseOrigin itemId pageOrigin chosen
      (checkedStage owner (.fieldsFor itemId pageOrigin) ok) := rfl

theorem fieldsStage_fieldsFor (now : Nat) :
    FieldsStage parseOrigin itemId pageOrigin chosen
      (vault.fieldsFor now itemId pageOrigin).stage := by
  simp only [fieldsFor]
  split
  · trivial
  · simp only [startFresh]
    split
    · exact fieldsStage_checkedStage _ _
    · simp only [startRefresh]
      split
      · rfl
      · split <;> rfl

theorem fieldsStage_resumeFresh {now owner : Nat} {stage : FreshStage} {answer : VaultAnswer}
    (resumed : vault.resumeFresh now owner (.fieldsFor itemId pageOrigin) stage answer =
      some progress) : FieldsStage parseOrigin itemId pageOrigin chosen progress.stage := by
  unfold resumeFresh at resumed
  split at resumed
  · split at resumed
    · cases resumed
      rfl
    · split at resumed <;> cases resumed
      rfl
  · cases resumed
    rfl
  · cases resumed
    rfl
  · cases resumed
    rfl
  · split at resumed <;> cases resumed <;> rfl
  · split at resumed <;> cases resumed <;> rfl
  · split at resumed <;> cases resumed <;> rfl
  · split at resumed <;> cases resumed <;> rfl
  · cases resumed

theorem fieldsStage_fieldsOf {state : Unlocked} (held : vault.state = some state) :
    FieldsStage parseOrigin itemId pageOrigin
      (vault.state.bind fun state => (state.items.get itemId).map ItemEntry.data)
      (vault.fieldsOf parseOrigin state itemId pageOrigin).stage := by
  simp only [fieldsOf, held, Option.bind_some]
  cases state.items.get itemId with
  | none => trivial
  | some entry =>
      simp only [Option.map_some]
      split
      next url =>
        split
        · exact ⟨_, rfl, url, rfl, rfl⟩
        · exact ⟨_, rfl, url, rfl, rfl⟩
      · trivial

theorem fieldsStage_resume {now : Nat} {stage : VaultStage} {answer : VaultAnswer}
    (stays : FieldsStage parseOrigin itemId pageOrigin chosen stage)
    (running : ∀ result, stage ≠ .returned result)
    (resumed : vault.resume parseOrigin sealPayload now stage answer = some progress) :
    (answer = .settled ∧ FieldsStage parseOrigin itemId pageOrigin
        (vault.state.bind fun state => (state.items.get itemId).map ItemEntry.data)
        progress.stage) ∨
      (answer ≠ .settled ∧ FieldsStage parseOrigin itemId pageOrigin chosen progress.stage) := by
  have freshly {owner : Nat} {fresh : FreshStage}
      (resumed : vault.resumeFresh now owner (.fieldsFor itemId pageOrigin) fresh answer =
        some progress) :
      (answer = .settled ∧ FieldsStage parseOrigin itemId pageOrigin
          (vault.state.bind fun state => (state.items.get itemId).map ItemEntry.data)
          progress.stage) ∨
        (answer ≠ .settled ∧ FieldsStage parseOrigin itemId pageOrigin chosen progress.stage) := by
    by_cases settled : answer = .settled
    · exact .inl ⟨settled, fieldsStage_resumeFresh resumed⟩
    · exact .inr ⟨settled, fieldsStage_resumeFresh resumed⟩
  cases stage with
  | fresh owner purpose fresh =>
      cases stays
      cases fresh with
      | checked ok =>
          simp only [VaultManager.resume, resumeChecked] at resumed
          split at resumed
          · cases resumed
            exact .inl ⟨rfl, trivial⟩
          · rename_i purpose current
            cases purpose
            cases resumed
            exact .inl ⟨rfl, fieldsStage_fieldsOf (Option.filter_eq_some_iff.mp current).1⟩
          all_goals simp_all
      | joining attempt => exact freshly resumed
      | refreshing attempt => exact freshly resumed
      | attemptSettled attempt ok => exact freshly resumed
      | refreshed ok => exact freshly resumed
      | listingDevices => exact freshly resumed
  | computingFill owner fields =>
      obtain ⟨data, found, url, username, password⟩ := stays
      cases answer with
      | totp code =>
          cases resumed
          refine .inr ⟨(fun settled => by cases settled), ?_⟩
          cases vault.holds owner with
          | true => exact ⟨data, found, url, username, password⟩
          | false => trivial
      | _ => cases resumed
  | returned result => exact absurd rfl (running result)
  | unlocking => exact stays.elim
  | loggingOut => exact stays.elim
  | computingTotp => exact stays.elim
  | mutating => exact stays.elim

end VaultManager

end ZenPass.Extension
