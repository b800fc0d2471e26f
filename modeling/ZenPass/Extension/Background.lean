import ZenPass.Extension.VaultManager
import ZenPass.Lib.Transition

set_option autoImplicit false

-- Messages, lock events and the awaits of the handlers interleave in any order. A message comes
-- with what the checks of its sender and of its shape have made of it.

namespace ZenPass.Extension

open Client KeyedStore Sdk

structure TrustedContentSender where
  tabId : Nat
  url : String
  origin : String
  documentId : Option String
deriving DecidableEq, Repr

inductive ValidatedContentMessage where
  | offer (request : PageRequest)
  | cancelOffer
deriving DecidableEq, Repr

/-- `id` stands for the identity of the object, `source` is the unlocked session that its
candidates come from; no code reads `source`. -/
structure PendingOffer where
  id : Nat
  tabId : Nat
  origin : String
  documentId : String
  formActionOrigin : String
  candidates : List LoginCandidate
  source : Nat
deriving DecidableEq, Repr

structure SavedAccount where
  accountId : String
  apiOrigin : String
deriving DecidableEq, Repr

inductive BackgroundToContent where
  | offerAvailable
  | refused (reason : RefusalReason)
  | locked
deriving DecidableEq, Repr

structure FillMessage where
  tabId : Nat
  documentId : String
  origin : String
  fields : FillFields
deriving DecidableEq, Repr

inductive BackgroundToPopup where
  | state (locked unlockAvailable : Bool) (savedAccount : Option SavedAccount)
  | candidates (requestId : String) (candidates : List LoginCandidate)
  | refused (reason : RefusalReason)
  | unlockFailed
  | unlocked
  | items (items : List ItemSummary)
  | saved (itemId : Id)
  | saveFailed (reason : String) (problems : Option (List String))
  | totp (totp : TotpDisplay)
  | locked
deriving DecidableEq, Repr

inductive Handler where
  | getState
  | unlock (accountId apiOrigin : String)
  | savingAccount
  | logout
  | requestCandidates (offer : PendingOffer)
  | listItems
  | getTotp
  | saveItem
  | activeTab (requestId itemId : String) (offer : PendingOffer) (generation : Nat)
  | fields (offer : PendingOffer) (generation : Nat)
  | sending (generation : Nat)
deriving DecidableEq, Repr

/-- A handler that is suspended, in the vault manager if `stage` is there. -/
structure HandlerTask where
  handler : Handler
  stage : Option VaultStage

inductive BackgroundAnswer where
  | vault (answer : VaultAnswer)
  | savedAccount (account : Option SavedAccount)
  | accountStored
  | activeTab (tab : Option (Nat × String))
  | sent (delivered : Bool)
  -- The promise of a vault method that has returned. `requestId` is the random id of a grant.
  | returned (requestId : String)

/-- `savedAccount` is `none` until it has been read. The logs of what was sent and answered are
read by no code. -/
structure Background where
  session : SessionStateMachine := {}
  capabilities : FillCapabilityStore := .empty
  savedAccount : Option (Option SavedAccount) := none
  pendingOffer : Option PendingOffer := none
  vault : VaultManager := {}
  offers : Nat := 0
  tasks : Nat → Option HandlerTask := fun _ => none
  fills : List FillMessage := []
  uploads : List Mutation := []
  answers : List (Nat × BackgroundToPopup) := []

inductive BackgroundAction where
  | lock
  | popupClosed
  | content (now : Nat) (sender : Option TrustedContentSender)
      (message : Option ValidatedContentMessage)
  | popup (t now : Nat) (trusted : Bool) (message : Option ValidatedPopupMessage)
  | resume (t now : Nat) (answer : BackgroundAnswer)

namespace Background

def lockFor (background : Background) (reason : LockReason) : Background :=
  { background with
    session := background.session.lock reason
    capabilities := .empty
    pendingOffer := none
    vault := background.vault.lock }

def lock (background : Background) : Background := background.lockFor .explicit

def lockFromPopupClose (background : Background) : Background := background.lockFor .popupClosed

def suspend (background : Background) (t : Nat) (handler : Handler) (stage : Option VaultStage) :
    Background :=
  { background with tasks := Function.update background.tasks t (some ⟨handler, stage⟩) }

def answer (background : Background) (t : Nat) (response : BackgroundToPopup) : Background :=
  { background with
    tasks := Function.update background.tasks t none
    answers := background.answers ++ [(t, response)] }

def advance (background : Background) (t : Nat) (handler : Handler) (progress : VaultProgress) :
    Background :=
  let stepped :=
    { background with
      vault := progress.vault
      uploads := background.uploads ++ progress.uploaded.toList }
  (if progress.authFailed then stepped.lock else stepped).suspend t handler (some progress.stage)

section Handlers

variable (parseOrigin : String → Option ParsedOrigin)
  (confirmApiOrigin : String → Option String) (sealPayload : SealRequest → Option Wire.Bytes)

def handleContentMessage (background : Background) (now : Nat)
    (sender : Option TrustedContentSender) (message : Option ValidatedContentMessage) :
    Background × BackgroundToContent :=
  let active := { background with session := background.session.ensureActive now }
  match sender, message with
  | none, _ => (active, .locked)
  | some _, none => (active, .refused .locked)
  | some sender, some .cancelOffer =>
      if active.pendingOffer.any fun offer => offer.tabId == sender.tabId then
        ({ active with pendingOffer := none }, .locked)
      else (active, .locked)
  | some sender, some (.offer request) =>
      if !active.session.active then (active, .refused .locked)
      -- The URL that the browser gives is authoritative.
      else if request.pageUrl ≠ sender.url then (active, .refused .invalidPage)
      else
        match decideFill parseOrigin request (active.vault.candidatesFor parseOrigin sender.origin) with
        | .refused reason => (active, .refused reason)
        | .allowed candidates =>
            match sender.documentId with
            | none =>
                ({ active with pendingOffer := none }, .refused .documentTargetingUnsupported)
            | some documentId =>
                ({ active with
                    offers := active.offers + 1
                    pendingOffer := some
                      { id := active.offers + 1
                        tabId := sender.tabId
                        origin := sender.origin
                        documentId
                        formActionOrigin := request.formAction.getD sender.origin
                        candidates
                        source := active.vault.installs } },
                  .offerAvailable)

def startUnlock (background : Background) (t : Nat) (accountId apiOrigin : String) : Background :=
  let locked := if background.session.active then background.lock else background
  locked.advance t (.unlock accountId apiOrigin) (locked.vault.unlock confirmApiOrigin accountId apiOrigin)

def startRequestCandidates (background : Background) (t now : Nat) : Background :=
  if !background.session.active then background.answer t .locked
  else
    match background.pendingOffer with
    | none => background.answer t (.refused .noExactOriginMatch)
    | some offer => background.advance t (.requestCandidates offer) (background.vault.checkFresh now)

def startListItems (background : Background) (t now : Nat) : Background :=
  if !background.session.active then background.answer t (.refused .unlockUnavailable)
  else background.advance t .listItems (background.vault.checkFresh now)

def startGetTotp (background : Background) (t now : Nat) (itemId : String) : Background :=
  if !background.session.active then background.answer t (.refused .unlockUnavailable)
  else background.advance t .getTotp (background.vault.getTotp now itemId)

/-- A secret that cannot be decoded throws, and the listener answers `locked`. -/
def startSaveItem (background : Background) (t now : Nat) (parsed : SaveItemMessage) : Background :=
  if !background.session.active then background.answer t (.refused .unlockUnavailable)
  else
    match saveInput parsed with
    | none => background.answer t .locked
    | some input => background.advance t .saveItem (background.vault.saveItem now input)

def startFillSelected (background : Background) (t : Nat) (requestId itemId : String) : Background :=
  if !background.session.active then background.answer t .locked
  else
    match background.pendingOffer with
    | none => background.answer t (.refused .staleCapability)
    | some offer =>
        if offer.candidates.any fun candidate => candidate.id == itemId then
          background.suspend t
            (.activeTab requestId itemId offer background.session.generation) none
        else background.answer t (.refused .noExactOriginMatch)

def startGetState (background : Background) (t : Nat) : Background :=
  match background.savedAccount with
  | some account => background.answer t (.state (!background.session.active) true account)
  | none => background.suspend t .getState none

def handlePopupMessage (background : Background) (t now : Nat) (trusted : Bool)
    (message : Option ValidatedPopupMessage) : Background :=
  let active := { background with session := background.session.ensureActive now }
  if !trusted then active.answer t .locked
  else
    match message with
    | none => active.answer t .locked
    | some message =>
        let noted :=
          { active with session := active.session.noteTrustedPopupActivity now }
        match message with
        | .getState => noted.startGetState t
        | .lock => noted.lock.answer t .locked
        | .logout => noted.advance t .logout noted.vault.logout
        | .requestCandidates => noted.startRequestCandidates t now
        | .listItems => noted.startListItems t now
        | .getTotp itemId => noted.startGetTotp t now itemId
        | .unlock accountId apiOrigin _ => noted.startUnlock confirmApiOrigin t accountId apiOrigin
        | .saveItem parsed => noted.startSaveItem t now parsed
        | .fillSelected requestId itemId => noted.startFillSelected t requestId itemId

def grantCandidates (background : Background) (t now : Nat) (offer : PendingOffer)
    (requestId : String) : Background :=
  let granted :=
    { background with
      capabilities := background.capabilities.set requestId
        { binding :=
            { generation := background.session.generation
              tabId := offer.tabId
              documentId := offer.documentId
              origin := offer.origin
              formActionOrigin := offer.formActionOrigin }
          grantedAt := now
          source := offer.source } }
  granted.answer t (.candidates requestId offer.candidates)

def resumeReturned (background : Background) (t now : Nat) (requestId : String) :
    Handler → VaultResult → Option Background
  | .unlock _ _, .unlocked false => some (background.answer t .unlockFailed)
  | .unlock accountId apiOrigin, .unlocked true =>
      -- Nothing is checked before the session is marked as unlocked.
      some
        ({ background with
            session := background.session.markUnlocked now
            savedAccount := some (some ⟨accountId, apiOrigin⟩) }.suspend t .savingAccount none)
  | .logout, .loggedOut =>
      some
        ({ background with
            session := background.session.lock .explicit
            capabilities := .empty
            pendingOffer := none }.answer t .locked)
  | .requestCandidates offer, .fresh ok =>
      if !ok || !background.session.active then some (background.answer t .locked)
      else if background.pendingOffer.any fun pending => pending.id == offer.id then
        some (background.grantCandidates t now offer requestId)
      else some (background.answer t (.refused .noExactOriginMatch))
  | .listItems, .fresh ok =>
      if !ok || !background.session.active then some (background.answer t .locked)
      else some (background.answer t (.items background.vault.listItems))
  | .getTotp, .totp totp =>
      some (background.answer t
        (if !background.session.active then .locked
          else totp.elim (.refused .notFound) .totp))
  | .saveItem, .saved result =>
      some (background.answer t
        (match saveResponse (!background.session.active) result with
          | .refused => .refused .unlockUnavailable
          | .locked => .locked
          | .saved itemId => .saved itemId
          | .saveFailed reason problems => .saveFailed reason problems))
  | .fields offer generation, .fields fields =>
      if background.session.generation ≠ generation then
        some (background.answer t (.refused .staleCapability))
      else
        match fields with
        | none => some (background.answer t (.refused .noExactOriginMatch))
        | some fields =>
            let message : FillMessage := ⟨offer.tabId, offer.documentId, offer.origin, fields⟩
            some
              ({ background with fills := background.fills ++ [message] }.suspend t
                (.sending background.session.generation) none)
  | _, _ => none

def resumeActiveTab (background : Background) (t now : Nat) (requestId itemId : String)
    (offer : PendingOffer) (generation : Nat) (tab : Option (Nat × String)) : Background :=
  if !background.session.active || background.session.generation != generation then
    background.answer t (.refused .staleCapability)
  else if tab ≠ some (offer.tabId, offer.origin) then
    -- The capability is used up against a binding that none can have.
    { background with
      capabilities := (background.capabilities.consume requestId none now).1 }.answer t
        (.refused .staleCapability)
  else
    let binding : FillCapabilityBinding :=
      { generation := background.session.generation
        tabId := offer.tabId
        documentId := offer.documentId
        origin := offer.origin
        formActionOrigin := offer.formActionOrigin }
    let (capabilities, ok) := background.capabilities.consume requestId (some binding) now
    let consumed := { background with capabilities }
    if ok then
      consumed.advance t (.fields offer generation)
        (consumed.vault.fieldsFor now itemId offer.origin)
    else consumed.answer t (.refused .staleCapability)

def resumeSending (background : Background) (t generation : Nat) (delivered : Bool) : Background :=
  let done := { background with pendingOffer := none }
  if done.session.generation ≠ generation then done.lock.answer t (.refused .staleCapability)
  else done.answer t (if delivered then .locked else .refused .documentTargetingUnsupported)

def resume (background : Background) (t now : Nat) (task : HandlerTask) :
    BackgroundAnswer → Option Background
  | .vault answer =>
      match task.stage with
      | none | some (.returned _) => none
      | some stage =>
          (background.vault.resume parseOrigin sealPayload now stage answer).map
            (background.advance t task.handler)
  | .returned requestId =>
      match task.stage with
      | some (.returned result) => background.resumeReturned t now requestId task.handler result
      | _ => none
  | .savedAccount account =>
      match task.handler, task.stage with
      | .getState, none =>
          some ({ background with savedAccount := some account }.answer t
            (.state (!background.session.active) true account))
      | _, _ => none
  | .accountStored =>
      match task.handler, task.stage with
      | .savingAccount, none => some (background.answer t .unlocked)
      | _, _ => none
  | .activeTab tab =>
      match task.handler, task.stage with
      | .activeTab requestId itemId offer generation, none =>
          some (background.resumeActiveTab t now requestId itemId offer generation tab)
      | _, _ => none
  | .sent delivered =>
      match task.handler, task.stage with
      | .sending generation, none => some (background.resumeSending t generation delivered)
      | _, _ => none

def step (background : Background) : BackgroundAction → Option Background
  | .lock => some background.lock
  | .popupClosed => some background.lockFromPopupClose
  | .content now sender message =>
      some (background.handleContentMessage parseOrigin now sender message).1
  | .popup t now trusted message =>
      match background.tasks t with
      | some _ => none
      | none => some (background.handlePopupMessage confirmApiOrigin t now trusted message)
  | .resume t now answer =>
      (background.tasks t).bind fun task =>
        background.resume parseOrigin sealPayload t now task answer

end Handlers

end Background

end ZenPass.Extension
