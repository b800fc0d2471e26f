import ZenPass.Client.ItemCodec
import ZenPass.Client.VaultItems
import ZenPass.Lib.Transition
import ZenPass.Lib.Utf16

set_option autoImplicit false

-- Its methods run on several threads. A step of a thread is one blocking call or one access to
-- what the threads share: the field `state`, a field of an unlocked state, the item session. The
-- first access of a method happens at its call.

namespace ZenPass.Android

open Client KeyedStore Sdk Wire

def freshCheckIntervalMs : Nat := 30000

def validateItemData (data : VaultItemData) : List String :=
  let login := data.type == "login" || data.type == "totp-login"
  (if ItemCodec.isBlank (JsonText.units data.title) then ["Title is required."] else []) ++
    (if (Utf16.codeUnits data.title).length > 500 then ["Title is too long."] else []) ++
    (if login && isFalsy data.username && isFalsy data.password then
      ["A login needs a username or a password."] else []) ++
    (if data.type == "totp-login" && isFalsy data.totpSecret then
      ["A TOTP login needs a secret."] else []) ++
    (if (Utf16.codeUnits (data.notes.getD "")).length > 100000 then
      ["Notes are too long."] else [])

/-- The fields that never change. `id` stands for the identity of the object. -/
structure UnlockedState where
  id : Nat
  session : Nat
  accountId : Id
  vaultId : Id
deriving DecidableEq, Repr

structure UnlockedFields where
  accessToken : Option String
  accessTokenExpiresAt : Option Nat
  items : InsertionMap Id ItemEntry

inductive SaveItemResult where
  | ok (itemId : Id)
  | failed (reason : String) (problems : List String)
deriving DecidableEq, Repr

inductive CallResult where
  | unlocked (ok : Bool)
  | locked
  | loggedOut
  | fresh (ok : Bool)
  | totp (totp : Option TotpDisplay)
  | saved (result : SaveItemResult)
  | threw
deriving DecidableEq, Repr

/-- `held` is the value of `state` that the dispose has read. -/
inductive DisposeStage where
  | reading
  | clearing (held : Option UnlockedState)
  | forgetting (held : Option UnlockedState)
  | closing (held : UnlockedState)
  | clearingToken (held : UnlockedState)
deriving DecidableEq, Repr

inductive AfterDispose where
  | unlock (accountId apiOrigin : String)
  | returns (result : CallResult)
deriving DecidableEq, Repr

inductive UnlockStage where
  | loggingIn
  | finishingLogin
  | registeringDevice (session : ApiSession)
  | fetchingBundle (session : ApiSession)
  | openingSession (session : ApiSession) (bundle : AccountBundle)
  | loading (session : ApiSession) (bundle : AccountBundle) (keySession : Nat)
      (items : InsertionMap Id ItemEntry) (cursor : Option String)
  | installing (session : ApiSession) (bundle : AccountBundle) (keySession : Nat)
      (items : InsertionMap Id ItemEntry)
  | stamping
deriving DecidableEq

inductive FreshPurpose where
  | checkFresh
  | getTotp (owner : UnlockedState) (itemId : Id)
  | saveItem (owner : UnlockedState) (input : SaveItemInput)
deriving DecidableEq, Repr

inductive FreshStage where
  | readingClock
  | readingExpiry
  | refreshing
  | refreshed (session : ApiSession)
  | storingToken (session : ApiSession)
  | storingExpiry (session : ApiSession)
  | rechecking
  | listingDevices
  | listed
  | stamping
  -- The refresh or the device list has failed.
  | failed
deriving DecidableEq, Repr

inductive TotpStage where
  | rechecking
  | readingItem
  | computing
deriving DecidableEq, Repr

inductive SaveStage where
  | rechecking
  | readingRevision
  | sealing (itemId : Id) (baseRevision : Int)
  | sending (mutation : Mutation)
  | mutating (itemId : Id)
  -- The revision of the item that was created, `none` for a conflict.
  | answered (itemId : Id) (revision : Option Int)
  | unauthorized
  | storing (itemId : Id) (revision : Int)
deriving DecidableEq, Repr

inductive Stage where
  | disposing (stage : DisposeStage) (after : AfterDispose)
  | unlocking (accountId : String) (stage : UnlockStage)
  | loggingOut (owner : UnlockedState)
  | startingFresh (purpose : FreshPurpose)
  | fresh (owner : UnlockedState) (purpose : FreshPurpose) (stage : FreshStage)
  | totp (owner : UnlockedState) (itemId : Id) (stage : TotpStage)
  | saving (owner : UnlockedState) (input : SaveItemInput) (stage : SaveStage)
deriving DecidableEq

inductive Progress where
  | goesOn (stage : Stage)
  | returns (result : CallResult)
deriving DecidableEq

inductive Call where
  | unlock (accountId apiOrigin : String)
  | lock
  | logout
  | checkFresh
  | getTotp (itemId : Id)
  | saveItem (input : SaveItemInput)
deriving DecidableEq, Repr

inductive MutateAnswer where
  | created (revision : Int)
  | conflict
  | httpError (status : Nat)
  | networkError
  | otherError
deriving DecidableEq, Repr

inductive Answer where
  | done
  | message
  | session (session : ApiSession)
  -- `none` for a status other than 200; the bundle is `none` if it cannot be parsed.
  | keyBundle (bundle : Option (Option AccountBundle))
  | opened
  -- A leg of the login that is not the expected one, or a key session that cannot be opened.
  | refused
  | changes (page : LoadedPage)
  | notFound
  | totp (code : Option String)
  | uuid (uuid : Id)
  | mutated (answer : MutateAnswer)
  | failed
deriving DecidableEq, Repr

/-- `openSessions` are the item sessions that have been opened and not closed, the first of
`sessions` many. `fields` holds what has changed of the unlocked states, the first of `installs`
many. The logs of uploads and results are read by no code. -/
structure VaultManager where
  state : Option UnlockedState := none
  lastFreshCheckAt : Nat := 0
  fields : Nat → UnlockedFields := fun _ => ⟨none, none, .empty⟩
  installs : Nat := 0
  sessions : Nat := 0
  openSessions : List Nat := []
  tasks : Nat → Option Stage := fun _ => none
  uploads : List Mutation := []
  results : List (Nat × CallResult) := []

inductive Action where
  | call (t : Nat) (call : Call)
  | resume (t now : Nat) (answer : Answer)
deriving DecidableEq, Repr

namespace VaultManager

def isUnlocked (vault : VaultManager) : Bool := vault.state.isSome

def holds (vault : VaultManager) (owner : UnlockedState) : Bool :=
  vault.state.any fun state => state.id == owner.id

def setFields (vault : VaultManager) (id : Nat) (fields : UnlockedFields) : VaultManager :=
  { vault with fields := Function.update vault.fields id fields }

def proceed (vault : VaultManager) (t : Nat) : Progress → VaultManager
  | .goesOn stage => { vault with tasks := Function.update vault.tasks t (some stage) }
  | .returns result =>
      { vault with
        tasks := Function.update vault.tasks t none
        results := vault.results ++ [(t, result)] }

section Unlock

variable (confirmApiOrigin : String → Option String)

def afterDispose : AfterDispose → Progress
  | .returns result => .returns result
  | .unlock accountId apiOrigin =>
      let length := (Utf16.codeUnits accountId).length
      if length = 0 ∨ 256 < length ∨ (confirmApiOrigin apiOrigin).isNone then
        .returns (.unlocked false)
      else .goesOn (.unlocking accountId .loggingIn)

def resumeDispose (vault : VaultManager) (t : Nat) (after : AfterDispose) :
    DisposeStage → VaultManager
  | .reading => vault.proceed t (.goesOn (.disposing (.clearing vault.state) after))
  | .clearing held =>
      { vault with state := none }.proceed t (.goesOn (.disposing (.forgetting held) after))
  | .forgetting none =>
      { vault with lastFreshCheckAt := 0 }.proceed t (afterDispose confirmApiOrigin after)
  | .forgetting (some held) =>
      { vault with lastFreshCheckAt := 0 }.proceed t (.goesOn (.disposing (.closing held) after))
  | .closing held =>
      { vault with
        openSessions := vault.openSessions.filter fun session => session ≠ held.session }.proceed t
        (.goesOn (.disposing (.clearingToken held) after))
  | .clearingToken held =>
      (vault.setFields held.id { vault.fields held.id with accessToken := none }).proceed t
        (afterDispose confirmApiOrigin after)

end Unlock

def install (vault : VaultManager) (session : ApiSession) (bundle : AccountBundle)
    (keySession : Nat) (items : InsertionMap Id ItemEntry) : VaultManager :=
  let id := vault.installs + 1
  let installed :=
    { vault with
      installs := id
      state := some
        { id
          session := keySession
          accountId := bundle.accountId
          vaultId := bundle.vaultId } }
  installed.setFields id
    { accessToken := some session.accessToken
      accessTokenExpiresAt := session.expiresAt
      items }

def resumeUnlock (vault : VaultManager) (t now : Nat) (accountId : String) :
    UnlockStage → Answer → Option VaultManager
  | .installing session bundle keySession items, .done =>
      some ((vault.install session bundle keySession items).proceed t
        (.goesOn (.unlocking accountId .stamping)))
  | .stamping, .done =>
      some ({ vault with lastFreshCheckAt := now }.proceed t (.returns (.unlocked true)))
  | .installing _ _ _ _, _ | .stamping, _ => none
  | .loading _ _ _ _ (some _), .notFound | _, .failed =>
      -- An item session that is open by now stays open.
      some (vault.proceed t (.goesOn (.disposing .reading (.returns (.unlocked false)))))
  | .loggingIn, .message => some (vault.proceed t (.goesOn (.unlocking accountId .finishingLogin)))
  | .finishingLogin, .session session =>
      some (vault.proceed t (.goesOn (.unlocking accountId (.registeringDevice session))))
  | .loggingIn, .refused | .finishingLogin, .refused | .openingSession _ _, .refused =>
      some (vault.proceed t (.returns (.unlocked false)))
  | .registeringDevice session, .done =>
      some (vault.proceed t (.goesOn (.unlocking accountId (.fetchingBundle session))))
  | .fetchingBundle session, .keyBundle (some (some bundle)) =>
      some (vault.proceed t
        (if bundle.accountId ≠ accountId then .returns (.unlocked false)
          else .goesOn (.unlocking accountId (.openingSession session bundle))))
  | .fetchingBundle _, .keyBundle _ => some (vault.proceed t (.returns (.unlocked false)))
  | .openingSession session bundle, .opened =>
      let keySession := vault.sessions + 1
      some
        ({ vault with
            sessions := keySession
            openSessions := keySession :: vault.openSessions }.proceed t
          (.goesOn (.unlocking accountId (.loading session bundle keySession .empty none))))
  | .loading session bundle keySession items none, .notFound =>
      some (vault.proceed t
        (.goesOn (.unlocking accountId (.installing session bundle keySession items))))
  | .loading session bundle keySession items _, .changes page =>
      let loaded := page.changes.foldl loadRecord items
      some (vault.proceed t
        (.goesOn (.unlocking accountId
          (if page.changes.isEmpty || page.nextCursor.isNone then
            .installing session bundle keySession loaded
          else .loading session bundle keySession loaded page.nextCursor))))
  | _, _ => none

def resumeLogout (vault : VaultManager) (t : Nat) (owner : UnlockedState) :
    Answer → Option VaultManager
  | .done =>
      some ((vault.setFields owner.id { vault.fields owner.id with accessToken := none }).proceed t
        (.goesOn (.disposing .reading (.returns .loggedOut))))
  | .failed => some (vault.proceed t (.goesOn (.disposing .reading (.returns .loggedOut))))
  | _ => none

def checkedFresh : FreshPurpose → Bool → Progress
  | .checkFresh, ok => .returns (.fresh ok)
  | .getTotp _ _, false => .returns (.totp none)
  | .getTotp owner itemId, true => .goesOn (.totp owner itemId .rechecking)
  | .saveItem _ _, false => .returns (.saved (.failed "network" []))
  | .saveItem owner input, true => .goesOn (.saving owner input .rechecking)

def failedResult : FreshPurpose → CallResult
  | .checkFresh => .fresh false
  | .getTotp _ _ => .totp none
  | .saveItem _ _ => .saved (.failed "network" [])

def resumeFresh (vault : VaultManager) (t now : Nat) (owner : UnlockedState)
    (purpose : FreshPurpose) : FreshStage → Answer → Option VaultManager
  | .readingClock, .done =>
      some (vault.proceed t
        (if now - vault.lastFreshCheckAt ≤ freshCheckIntervalMs then checkedFresh purpose true
          else .goesOn (.fresh owner purpose .readingExpiry)))
  | .readingExpiry, .done =>
      -- An expiry that is no date counts as passed.
      let near :=
        (vault.fields owner.id).accessTokenExpiresAt.all fun expiresAt =>
          decide (expiresAt ≤ now + freshCheckIntervalMs)
      some (vault.proceed t
        (.goesOn (.fresh owner purpose (if near then .refreshing else .rechecking))))
  | .refreshing, .session session =>
      some (vault.proceed t (.goesOn (.fresh owner purpose (.refreshed session))))
  | .refreshed session, .done =>
      some (vault.proceed t
        (if vault.holds owner then .goesOn (.fresh owner purpose (.storingToken session))
          else checkedFresh purpose false))
  | .storingToken session, .done =>
      some
        ((vault.setFields owner.id
          { vault.fields owner.id with accessToken := some session.accessToken }).proceed t
          (.goesOn (.fresh owner purpose (.storingExpiry session))))
  | .storingExpiry session, .done =>
      some
        ((vault.setFields owner.id
          { vault.fields owner.id with accessTokenExpiresAt := session.expiresAt }).proceed t
          (.goesOn (.fresh owner purpose .rechecking)))
  | .rechecking, .done =>
      some (vault.proceed t
        (if vault.holds owner then .goesOn (.fresh owner purpose .listingDevices)
          else checkedFresh purpose false))
  | .listingDevices, .done => some (vault.proceed t (.goesOn (.fresh owner purpose .listed)))
  | .refreshing, .failed | .listingDevices, .failed =>
      some (vault.proceed t (.goesOn (.fresh owner purpose .failed)))
  | .listed, .done =>
      some (vault.proceed t
        (if vault.holds owner then .goesOn (.fresh owner purpose .stamping)
          else checkedFresh purpose false))
  | .stamping, .done =>
      some ({ vault with lastFreshCheckAt := now }.proceed t (checkedFresh purpose true))
  | .failed, .done =>
      some (vault.proceed t
        (if vault.holds owner then .goesOn (.disposing .reading (.returns (failedResult purpose)))
          else checkedFresh purpose false))
  | _, _ => none

def resumeTotp (vault : VaultManager) (t now : Nat) (owner : UnlockedState) (itemId : Id) :
    TotpStage → Answer → Option VaultManager
  | .rechecking, .done =>
      some (vault.proceed t
        (if vault.holds owner then .goesOn (.totp owner itemId .readingItem)
          else .returns (.totp none)))
  | .readingItem, .done =>
      some (vault.proceed t
        (match (vault.fields owner.id).items.get itemId with
          | none => .returns (.totp none)
          | some entry =>
              if entry.data.type ≠ "totp-login" ∨ isFalsy entry.data.totpSecret then
                .returns (.totp none)
              else .goesOn (.totp owner itemId .computing)))
  | .computing, .totp code =>
      some (vault.proceed t
        (.returns
          (.totp (if vault.holds owner then code.map fun code => ⟨code, secondsRemaining now⟩
            else none))))
  | _, _ => none

def baseRevision (items : InsertionMap Id ItemEntry) : Option Id → Int
  | none => 0
  | some itemId => ((items.get itemId).map ItemEntry.revision).getD 0

def sealRequest (owner : UnlockedState) (itemId : Id) (data : VaultItemData) : SealRequest where
  session := owner.session
  accountId := owner.accountId
  vaultId := owner.vaultId
  itemId := itemId
  plaintext := encodeItemData data

def resumeSave (sealPayload : SealRequest → Option Bytes) (vault : VaultManager) (t : Nat)
    (owner : UnlockedState) (input : SaveItemInput) : SaveStage → Answer → Option VaultManager
  | .rechecking, .done =>
      some (vault.proceed t
        (if vault.holds owner then .goesOn (.saving owner input .readingRevision)
          else .returns (.saved (.failed "network" []))))
  | .readingRevision, .uuid uuid =>
      let revision := baseRevision (vault.fields owner.id).items input.itemId
      some (vault.proceed t
        (.goesOn (.saving owner input (.sealing (input.itemId.getD uuid) revision))))
  | .sealing itemId baseRevision, .uuid uuid =>
      -- A session that has been closed seals nothing.
      let envelope :=
        if owner.session ∈ vault.openSessions then sealPayload (sealRequest owner itemId input.data)
        else none
      some (vault.proceed t
        (match envelope with
          | none => .returns (.saved (.failed "locked" []))
          | some envelope =>
              .goesOn (.saving owner input
                (.sending
                  { mutationId := uuid
                    itemId
                    vaultId := owner.vaultId
                    baseRevision
                    ciphertext := encodeB64 envelope
                    envelopeVersion := Sync.envelopeVersionV1
                    deleted := false }))))
  | .sending mutation, .done =>
      if (vault.fields owner.id).accessToken.isNone then some (vault.proceed t (.returns .threw))
      else
        some
          ({ vault with uploads := vault.uploads ++ [mutation] }.proceed t
            (.goesOn (.saving owner input (.mutating mutation.itemId))))
  | .mutating itemId, .mutated answer =>
      some (vault.proceed t
        (match answer with
          | .created revision => .goesOn (.saving owner input (.answered itemId (some revision)))
          | .conflict => .goesOn (.saving owner input (.answered itemId none))
          | .httpError status =>
              if status = 401 then .goesOn (.saving owner input .unauthorized)
              else .returns (.saved (.failed "network" []))
          | .networkError => .returns (.saved (.failed "network" []))
          | .otherError => .returns .threw))
  | .answered itemId revision, .done =>
      some (vault.proceed t
        (if vault.holds owner then
          match revision with
          | none => .returns (.saved (.failed "conflict" []))
          | some revision => .goesOn (.saving owner input (.storing itemId revision))
        else .returns (.saved (.failed "locked" []))))
  | .unauthorized, .done =>
      some (vault.proceed t
        (if vault.holds owner then
          .goesOn (.disposing .reading (.returns (.saved (.failed "network" []))))
        else .returns (.saved (.failed "network" []))))
  | .storing itemId revision, .done =>
      let fields := vault.fields owner.id
      some
        ((vault.setFields owner.id
          { fields with items := fields.items.set itemId ⟨itemId, revision, input.data⟩ }).proceed t
          (.returns (.saved (.ok itemId))))
  | _, _ => none

def call (vault : VaultManager) : Call → Progress
  | .unlock accountId apiOrigin =>
      .goesOn (.disposing (.clearing vault.state) (.unlock accountId apiOrigin))
  | .lock => .goesOn (.disposing (.clearing vault.state) (.returns .locked))
  | .logout =>
      .goesOn (vault.state.elim (.disposing .reading (.returns .loggedOut)) .loggingOut)
  | .checkFresh =>
      match vault.state with
      | none => .returns (.fresh false)
      | some owner => .goesOn (.fresh owner .checkFresh .readingClock)
  | .getTotp itemId =>
      match vault.state with
      | none => .returns (.totp none)
      | some owner => .goesOn (.startingFresh (.getTotp owner itemId))
  | .saveItem input =>
      match vault.state with
      | none => .returns (.saved (.failed "locked" []))
      | some owner =>
          let problems := validateItemData input.data
          if problems ≠ [] then .returns (.saved (.failed "validation" problems))
          else .goesOn (.startingFresh (.saveItem owner input))

section Steps

variable (confirmApiOrigin : String → Option String) (sealPayload : SealRequest → Option Bytes)

def resume (vault : VaultManager) (t now : Nat) : Stage → Answer → Option VaultManager
  | .disposing stage after, .done => some (vault.resumeDispose confirmApiOrigin t after stage)
  | .disposing _ _, _ => none
  | .unlocking accountId stage, answer => vault.resumeUnlock t now accountId stage answer
  | .loggingOut owner, answer => vault.resumeLogout t owner answer
  | .startingFresh purpose, .done =>
      some (vault.proceed t
        (match vault.state with
          | none => checkedFresh purpose false
          | some owner => .goesOn (.fresh owner purpose .readingClock)))
  | .startingFresh _, _ => none
  | .fresh owner purpose stage, answer => vault.resumeFresh t now owner purpose stage answer
  | .totp owner itemId stage, answer => vault.resumeTotp t now owner itemId stage answer
  | .saving owner input stage, answer => vault.resumeSave sealPayload t owner input stage answer

def step (vault : VaultManager) : Action → Option VaultManager
  | .call t call =>
      match vault.tasks t with
      | some _ => none
      | none => some (vault.proceed t (vault.call call))
  | .resume t now answer =>
      (vault.tasks t).bind fun stage =>
        vault.resume confirmApiOrigin sealPayload t now stage answer

end Steps

end VaultManager

end ZenPass.Android
