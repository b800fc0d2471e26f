import ZenPass.Extension.Message
import ZenPass.Lib.KeyedStore

set_option autoImplicit false

-- The session state machine, the one-use fill capabilities and the decision on a page's request.
-- `parseOrigin` stands for the browser's URL parser.

namespace ZenPass.Extension

open KeyedStore

inductive LockReason where
  | explicit
  | popupClosed
  | timeout
  | error
  | evicted
  | authFailed
  | startup
deriving DecidableEq, Repr

def popupInactivityLimitMs : Nat := 300000

structure SessionStateMachine where
  generation : Nat := 1
  lastTrustedActivityAt : Option Nat := none
  active : Bool := false
  lastLockReason : LockReason := .startup
deriving DecidableEq, Repr

namespace SessionStateMachine

def lock (session : SessionStateMachine) (reason : LockReason) : SessionStateMachine where
  generation := session.generation + 1
  lastLockReason := reason

def markUnlocked (session : SessionStateMachine) (now : Nat) : SessionStateMachine :=
  if session.active then session
  else { session with active := true, lastTrustedActivityAt := some now }

def noteTrustedPopupActivity (session : SessionStateMachine) (now : Nat) : SessionStateMachine :=
  if session.active then { session with lastTrustedActivityAt := some now } else session

def expired (session : SessionStateMachine) (now : Nat) : Bool :=
  session.active &&
    match session.lastTrustedActivityAt with
    | none => true
    | some last => decide (now - last > popupInactivityLimitMs)

def ensureActive (session : SessionStateMachine) (now : Nat) : SessionStateMachine :=
  if session.expired now then session.lock .timeout else session

@[simp] theorem markUnlocked_active (session : SessionStateMachine) (now : Nat) :
    (session.markUnlocked now).active = true := by
  unfold markUnlocked
  split
  · assumption
  · rfl

@[simp] theorem noteTrustedPopupActivity_active (session : SessionStateMachine) (now : Nat) :
    (session.noteTrustedPopupActivity now).active = session.active := by
  unfold noteTrustedPopupActivity
  split <;> rfl

end SessionStateMachine

structure ParsedOrigin where
  scheme : String
  host : String
  port : String
deriving DecidableEq, Repr

structure LoginCandidate where
  id : String
  title : String
  origin : String
deriving DecidableEq, Repr

structure PageRequest where
  pageUrl : String
  isTopFrame : Bool
  formAction : Option String
  usernameVisible : Bool
  passwordVisible : Bool
deriving DecidableEq, Repr

inductive RefusalReason where
  | locked
  | notTopFrame
  | notHttps
  | invalidPage
  | crossOriginForm
  | hiddenField
  | noExactOriginMatch
  | staleCapability
  | documentTargetingUnsupported
  | unlockUnavailable
  | notFound
deriving DecidableEq, Repr

inductive FillDecision where
  | allowed (candidates : List LoginCandidate)
  | refused (reason : RefusalReason)
deriving DecidableEq, Repr

section Origins

variable (parseOrigin : String → Option ParsedOrigin)

def matchOrigin (itemOrigin pageOrigin : String) : Bool :=
  match parseOrigin itemOrigin, parseOrigin pageOrigin with
  | some item, some page => item == page
  | _, _ => false

def decideFill (request : PageRequest) (candidates : List LoginCandidate) : FillDecision :=
  if !request.isTopFrame then .refused .notTopFrame
  else
    match parseOrigin request.pageUrl with
    | none => .refused .invalidPage
    | some page =>
        if page.scheme ≠ "https:" then .refused .notHttps
        else if !request.usernameVisible || !request.passwordVisible then .refused .hiddenField
        else if request.formAction.any fun action => !matchOrigin parseOrigin request.pageUrl action then
          .refused .crossOriginForm
        else
          let matching :=
            candidates.filter fun candidate => matchOrigin parseOrigin candidate.origin request.pageUrl
          if matching.isEmpty then .refused .noExactOriginMatch else .allowed matching

end Origins

def maxCapabilityLifetimeMs : Nat := 30000

structure FillCapabilityBinding where
  generation : Nat
  tabId : Nat
  documentId : String
  origin : String
  formActionOrigin : String
deriving DecidableEq, Repr

/-- `source` is the unlocked session that the candidates came from; no code reads it. -/
structure FillCapability where
  binding : FillCapabilityBinding
  grantedAt : Nat
  source : Nat
deriving DecidableEq, Repr

abbrev FillCapabilityStore := InsertionMap String FillCapability

/-- The entry is gone whether the check passes or not. A mismatch of any field refuses. -/
def FillCapabilityStore.consume (store : FillCapabilityStore) (requestId : String)
    (current : Option FillCapabilityBinding) (now : Nat) : FillCapabilityStore × Bool :=
  if requestId.isEmpty || decide (maxIdLength < (Utf16.codeUnits requestId).length) then
    (store, false)
  else
    match store.get requestId with
    | none => (store.delete requestId, false)
    | some entry =>
        (store.delete requestId,
          decide (now - entry.grantedAt ≤ maxCapabilityLifetimeMs) && some entry.binding == current)

namespace FillCapabilityStore

variable {store : FillCapabilityStore} {requestId : String} {current : Option FillCapabilityBinding}
  {now : Nat}

theorem get_of_consume {other : String} {capability : FillCapability}
    (left : (store.consume requestId current now).1.get other = some capability) :
    store.get other = some capability := by
  unfold consume at left
  split at left
  · exact left
  · split at left
    · exact InsertionMap.get_of_get_delete left
    · exact InsertionMap.get_of_get_delete left

theorem consume_valid (valid : (store.consume requestId current now).2 = true) :
    ∃ capability, store.get requestId = some capability ∧ some capability.binding = current ∧
      now - capability.grantedAt ≤ maxCapabilityLifetimeMs ∧
      (store.consume requestId current now).1.get requestId = none := by
  cases long : requestId.isEmpty || decide (maxIdLength < (Utf16.codeUnits requestId).length) with
  | true => simp only [consume, long, if_true, Bool.false_eq_true] at valid
  | false =>
      cases found : store.get requestId with
      | none => simp only [consume, long, found, Bool.false_eq_true, if_false] at valid
      | some capability =>
          simp only [consume, long, found, Bool.false_eq_true, if_false] at valid ⊢
          rw [Bool.and_eq_true, decide_eq_true_eq, beq_iff_eq] at valid
          exact ⟨capability, rfl, valid.2, valid.1, InsertionMap.get_delete_self _ _⟩

end FillCapabilityStore

end ZenPass.Extension
