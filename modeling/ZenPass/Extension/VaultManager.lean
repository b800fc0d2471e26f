import ZenPass.Extension.FillPolicy
import ZenPass.Extension.SaveItem

set_option autoImplicit false

-- A stage is where a call of a method is suspended, an answer is what the awaited promise settles
-- with. A method that has returned stays in its stage `returned` until its caller goes on.

namespace ZenPass.Extension

open Client KeyedStore Sdk Wire

def freshCheckIntervalMs : Nat := 30000
def refreshMarginMs : Nat := 30000

/-- `id` stands for the identity of the object, `host` for its crypto host. An expiry that is no
date is `none`. -/
structure Unlocked extends UnlockedState where
  id : Nat
  host : Nat
  accessTokenExpiresAt : Option Nat

/-- `liveHosts` are the crypto hosts with an open key session. `installs`, `hosts` and `refreshes`
number the objects made so far, `settledRefreshes` are the refresh attempts that have settled. -/
structure VaultManager where
  state : Option Unlocked := none
  lastFreshCheckAt : Nat := 0
  refreshInFlight : Option Nat := none
  installs : Nat := 0
  hosts : Nat := 0
  refreshes : Nat := 0
  settledRefreshes : List (Nat × Bool) := []
  liveHosts : List Nat := []

inductive UnlockStage where
  | creatingOpaque
  | loggingIn
  | registeringDevice (session : ApiSession)
  | fetchingBundle (session : ApiSession)
  | creatingBackend (session : ApiSession) (bundle : AccountBundle)
  | loading (session : ApiSession) (bundle : AccountBundle) (host keySession : Nat)
      (items : InsertionMap Id ItemEntry) (cursor : Option String)

structure FillFields where
  username : String
  password : String
  totp : Option String
deriving DecidableEq, Repr

inductive FreshPurpose where
  | checkFresh
  | fieldsFor (itemId pageOrigin : String)
  | getTotp (itemId : String)
  | saveItem (input : SaveItemInput)
deriving DecidableEq, Repr

inductive FreshStage where
  | joining (attempt : Nat)
  | refreshing (attempt : Nat)
  | attemptSettled (attempt : Nat) (ok : Bool)
  | refreshed (ok : Bool)
  | listingDevices
  | checked (ok : Bool)
deriving DecidableEq, Repr

inductive VaultResult where
  | unlocked (ok : Bool)
  | loggedOut
  | fresh (ok : Bool)
  | fields (fields : Option FillFields)
  | totp (totp : Option TotpDisplay)
  | saved (result : SaveItemResult)
deriving DecidableEq, Repr

/-- `owner` is the state that the method has captured. -/
inductive VaultStage where
  | unlocking (accountId : Id) (stage : UnlockStage)
  | loggingOut
  | fresh (owner : Nat) (purpose : FreshPurpose) (stage : FreshStage)
  | computingFill (owner : Nat) (fields : FillFields)
  | computingTotp (owner : Nat)
  | mutating (owner : Nat) (itemId : Id) (data : VaultItemData)
  | returned (result : VaultResult)

inductive VaultAnswer where
  | done
  | session (session : ApiSession)
  -- `none` for a 404; the bundle is `none` if it cannot be parsed.
  | keyBundle (bundle : Option (Option AccountBundle))
  -- The backend, and the session that the host opens for the bundle.
  | backend (keySession : Option Nat)
  | changes (page : LoadedPage)
  | notFound
  | refreshed (session : ApiSession)
  | mutated (outcome : Except (Thrown ItemRecord Unit) (MutateOutcome ItemRecord))
  | totp (code : Option String)
  | uuids (itemUuid mutationUuid : Id)
  -- Nothing but a promise of the manager itself.
  | settled
  -- An exception or a deadline.
  | failed

/-- What runs up to the next await. After `authFailed` the failure callback runs at once. -/
structure VaultProgress where
  vault : VaultManager
  stage : VaultStage
  authFailed : Bool := false
  uploaded : Option Mutation := none

namespace VaultManager

def isUnlocked (vault : VaultManager) : Bool := vault.state.isSome

def holds (vault : VaultManager) (owner : Nat) : Bool :=
  vault.state.any fun state => state.id == owner

def dispose (vault : VaultManager) : VaultManager :=
  { vault with
    state := none
    lastFreshCheckAt := 0
    refreshInFlight := none
    liveHosts :=
      match vault.state with
      | none => vault.liveHosts
      | some state => vault.liveHosts.filter fun host => host ≠ state.host }

def lock (vault : VaultManager) : VaultManager := vault.dispose

def unlock (confirmApiOrigin : String → Option String) (vault : VaultManager)
    (accountId apiOrigin : String) : VaultProgress :=
  let length := (Utf16.codeUnits accountId).length
  { vault := vault.dispose
    stage :=
      if length = 0 ∨ 256 < length ∨ (confirmApiOrigin apiOrigin).isNone then
        .returned (.unlocked false)
      else .unlocking accountId .creatingOpaque }

/-- The end of `unlock`: nothing is checked before the state is installed. -/
def install (vault : VaultManager) (now : Nat) (session : ApiSession) (bundle : AccountBundle)
    (host keySession : Nat) (items : InsertionMap Id ItemEntry) : VaultProgress where
  vault :=
    { vault with
      installs := vault.installs + 1
      lastFreshCheckAt := now
      state := some
        { id := vault.installs + 1
          host
          session := keySession
          accountId := bundle.accountId
          vaultId := bundle.vaultId
          accessToken := some session.accessToken
          accessTokenExpiresAt := session.expiresAt
          items } }
  stage := .returned (.unlocked true)

def resumeUnlock (vault : VaultManager) (now : Nat) (accountId : Id) :
    UnlockStage → VaultAnswer → Option VaultProgress
  | .loading _ _ _ _ _ (some _), .notFound | _, .failed =>
      -- A key session that is open by now stays open.
      some { vault := vault.dispose, stage := .returned (.unlocked false) }
  | .creatingOpaque, .done => some { vault, stage := .unlocking accountId .loggingIn }
  | .loggingIn, .session session =>
      some { vault, stage := .unlocking accountId (.registeringDevice session) }
  | .registeringDevice session, .done =>
      some { vault, stage := .unlocking accountId (.fetchingBundle session) }
  | .fetchingBundle session, .keyBundle (some (some bundle)) =>
      if bundle.accountId ≠ accountId then some { vault, stage := .returned (.unlocked false) }
      else some { vault, stage := .unlocking accountId (.creatingBackend session bundle) }
  | .fetchingBundle _, .keyBundle _ => some { vault, stage := .returned (.unlocked false) }
  | .creatingBackend _ _, .backend none => some { vault, stage := .returned (.unlocked false) }
  | .creatingBackend session bundle, .backend (some keySession) =>
      let host := vault.hosts + 1
      some
        { vault := { vault with hosts := host, liveHosts := host :: vault.liveHosts }
          stage := .unlocking accountId (.loading session bundle host keySession .empty none) }
  | .loading session bundle host keySession items none, .notFound =>
      some (vault.install now session bundle host keySession items)
  | .loading session bundle host keySession items _, .changes page =>
      let loaded := page.changes.foldl loadRecord items
      -- A full page with a cursor asks for the next one.
      if page.changes.isEmpty || (page.nextCursor.getD "").isEmpty then
        some (vault.install now session bundle host keySession loaded)
      else
        some
          { vault
            stage :=
              .unlocking accountId (.loading session bundle host keySession loaded page.nextCursor) }
  | _, _ => none

def logout (vault : VaultManager) : VaultProgress :=
  if vault.isUnlocked then { vault, stage := .loggingOut }
  else { vault := vault.dispose, stage := .returned .loggedOut }

def checkedStage (owner : Nat) (purpose : FreshPurpose) (ok : Bool) : VaultStage :=
  match purpose with
  | .checkFresh => .returned (.fresh ok)
  | _ => .fresh owner purpose (.checked ok)

def startRefresh (vault : VaultManager) (now : Nat) (state : Unlocked) (purpose : FreshPurpose) :
    VaultProgress :=
  match vault.refreshInFlight with
  | some attempt => { vault, stage := .fresh state.id purpose (.joining attempt) }
  | none =>
      -- An expiry that cannot be read, or is not near, needs no refresh.
      if state.accessTokenExpiresAt.all fun expiresAt => decide (now + refreshMarginMs < expiresAt) then
        { vault, stage := .fresh state.id purpose (.refreshed true) }
      else
        let attempt := vault.refreshes + 1
        { vault := { vault with refreshes := attempt, refreshInFlight := some attempt }
          stage := .fresh state.id purpose (.refreshing attempt) }

def startFresh (vault : VaultManager) (now : Nat) (state : Unlocked) (purpose : FreshPurpose) :
    VaultProgress :=
  if now - vault.lastFreshCheckAt ≤ freshCheckIntervalMs then
    { vault, stage := checkedStage state.id purpose true }
  else vault.startRefresh now state purpose

def checkFresh (vault : VaultManager) (now : Nat) : VaultProgress :=
  match vault.state with
  | none => { vault, stage := .returned (.fresh false) }
  | some state => vault.startFresh now state .checkFresh

def handleAuthFailure (vault : VaultManager) (stage : VaultStage) : VaultProgress where
  vault := vault.dispose
  stage := stage
  authFailed := true

/-- A refreshed token replaces the old one, unless the state has changed meanwhile. -/
def storeToken (vault : VaultManager) (owner : Nat) (session : ApiSession) : VaultManager :=
  { vault with
    state := vault.state.map fun state =>
      if state.id = owner then
        { state with
          accessToken := some session.accessToken
          accessTokenExpiresAt := session.expiresAt }
      else state }

def settleRefresh (vault : VaultManager) (attempt : Nat) (ok : Bool) : VaultManager :=
  { vault with settledRefreshes := vault.settledRefreshes ++ [(attempt, ok)] }

def forgetRefresh (vault : VaultManager) (attempt : Nat) : VaultManager :=
  { vault with
    refreshInFlight := if vault.refreshInFlight = some attempt then none else vault.refreshInFlight }

def resumeFresh (vault : VaultManager) (now owner : Nat) (purpose : FreshPurpose) :
    FreshStage → VaultAnswer → Option VaultProgress
  | .joining attempt, .settled =>
      if (attempt, true) ∈ vault.settledRefreshes then
        some { vault, stage := .fresh owner purpose (.refreshed (vault.holds owner)) }
      else if (attempt, false) ∈ vault.settledRefreshes then
        some { vault, stage := .fresh owner purpose (.refreshed false) }
      else none
  | .refreshing attempt, .refreshed session =>
      some
        { vault := (vault.storeToken owner session).settleRefresh attempt true
          stage := .fresh owner purpose (.attemptSettled attempt true) }
  | .refreshing attempt, .failed =>
      some
        { vault := vault.settleRefresh attempt false
          stage := .fresh owner purpose (.attemptSettled attempt false) }
  | .attemptSettled attempt true, .settled =>
      some
        { vault := vault.forgetRefresh attempt
          stage := .fresh owner purpose (.refreshed (vault.holds owner)) }
  | .attemptSettled attempt false, .settled =>
      if vault.holds owner then
        some (vault.handleAuthFailure (.fresh owner purpose (.refreshed false)))
      else
        some
          { vault := vault.forgetRefresh attempt
            stage := .fresh owner purpose (.refreshed false) }
  | .refreshed ok, .settled =>
      if ok && vault.holds owner then
        some { vault, stage := .fresh owner purpose .listingDevices }
      else some { vault, stage := checkedStage owner purpose false }
  | .listingDevices, .done =>
      if vault.holds owner then
        some
          { vault := { vault with lastFreshCheckAt := now }
            stage := checkedStage owner purpose true }
      else some { vault, stage := checkedStage owner purpose false }
  | .listingDevices, .failed =>
      if vault.holds owner then
        some (vault.handleAuthFailure (checkedStage owner purpose false))
      else some { vault, stage := checkedStage owner purpose false }
  | _, _ => none

section Items

variable (parseOrigin : String → Option ParsedOrigin)

def isLogin (data : VaultItemData) : Bool := data.type == "login" || data.type == "totp-login"

def urlMatches (data : VaultItemData) (pageOrigin : String) : Bool :=
  !isFalsy data.url && matchOrigin parseOrigin (data.url.getD "") pageOrigin

def candidatesFor (vault : VaultManager) (pageOrigin : String) : List LoginCandidate :=
  match vault.state with
  | none => []
  | some state =>
      (state.items.values.filter fun entry =>
          isLogin entry.data && urlMatches parseOrigin entry.data pageOrigin).map fun entry =>
        { id := entry.itemId, title := entry.data.title, origin := pageOrigin }

def listItems (vault : VaultManager) : List ItemSummary :=
  match vault.state with
  | none => []
  | some state => state.items.values.map ItemEntry.summary

def fieldsFor (vault : VaultManager) (now : Nat) (itemId pageOrigin : String) : VaultProgress :=
  match vault.state with
  | none => { vault, stage := .returned (.fields none) }
  | some state => vault.startFresh now state (.fieldsFor itemId pageOrigin)

def getTotp (vault : VaultManager) (now : Nat) (itemId : String) : VaultProgress :=
  match vault.state with
  | none => { vault, stage := .returned (.totp none) }
  | some state => vault.startFresh now state (.getTotp itemId)

def saveItem (vault : VaultManager) (now : Nat) (input : SaveItemInput) : VaultProgress :=
  match vault.state with
  | none => { vault, stage := .returned (.saved .locked) }
  | some state =>
      let problems := validateItemData input.data
      if problems ≠ [] then { vault, stage := .returned (.saved (.validation problems)) }
      else vault.startFresh now state (.saveItem input)

def fieldsOf (vault : VaultManager) (state : Unlocked) (itemId pageOrigin : String) : VaultProgress :=
  match state.items.get itemId with
  | none => { vault, stage := .returned (.fields none) }
  | some entry =>
      if urlMatches parseOrigin entry.data pageOrigin then
        let fields : FillFields :=
          ⟨entry.data.username.getD "", entry.data.password.getD "", none⟩
        if entry.data.type = "totp-login" ∧ ¬ isFalsy entry.data.totpSecret then
          { vault, stage := .computingFill state.id fields }
        else { vault, stage := .returned (.fields (some fields)) }
      else { vault, stage := .returned (.fields none) }

def totpOf (vault : VaultManager) (state : Unlocked) (itemId : String) : VaultProgress :=
  match state.items.get itemId with
  | none => { vault, stage := .returned (.totp none) }
  | some entry =>
      if entry.data.type = "totp-login" ∧ ¬ isFalsy entry.data.totpSecret then
        { vault, stage := .computingTotp state.id }
      else { vault, stage := .returned (.totp none) }

def uploadOf (sealPayload : SealRequest → Option Bytes) (vault : VaultManager) (state : Unlocked)
    (input : SaveItemInput) (itemUuid mutationUuid : Id) : VaultProgress :=
  let itemId := input.itemId.getD itemUuid
  match sealPayload (saveRequest state.toUnlockedState itemId input.data) with
  | none => { vault, stage := .returned (.saved .locked) }
  | some envelope =>
      { vault
        stage := .mutating state.id itemId input.data
        uploaded :=
          some (saveMutation state.toUnlockedState state.items input itemId mutationUuid envelope) }

def resumeChecked (sealPayload : SealRequest → Option Bytes) (vault : VaultManager) (owner : Nat)
    (ok : Bool) (purpose : FreshPurpose) (answer : VaultAnswer) : Option VaultProgress :=
  let current := vault.state.filter fun state => ok && state.id == owner
  match purpose, answer, current with
  | .fieldsFor _ _, .settled, none => some { vault, stage := .returned (.fields none) }
  | .fieldsFor itemId pageOrigin, .settled, some state =>
      some (vault.fieldsOf parseOrigin state itemId pageOrigin)
  | .getTotp _, .settled, none => some { vault, stage := .returned (.totp none) }
  | .getTotp itemId, .settled, some state => some (vault.totpOf state itemId)
  | .saveItem _, .uuids _ _, none => some { vault, stage := .returned (.saved .network) }
  | .saveItem input, .uuids itemUuid mutationUuid, some state =>
      some (vault.uploadOf sealPayload state input itemUuid mutationUuid)
  | _, _, _ => none

def resumeMutating (vault : VaultManager) (owner : Nat) (itemId : Id) (data : VaultItemData)
    (outcome : Except (Thrown ItemRecord Unit) (MutateOutcome ItemRecord)) : VaultProgress :=
  let current := vault.state.filter fun state => state.id == owner
  let run := finishSave { result := .locked, items := current.map fun state => state.items }
    itemId data outcome
  match current, run.items with
  | some _, none => vault.handleAuthFailure (.returned (.saved run.result))
  | some state, some items =>
      { vault := { vault with state := some { state with items } }
        stage := .returned (.saved run.result) }
  | none, _ => { vault, stage := .returned (.saved run.result) }

def resume (sealPayload : SealRequest → Option Bytes) (vault : VaultManager) (now : Nat) :
    VaultStage → VaultAnswer → Option VaultProgress
  | .unlocking accountId stage, answer => vault.resumeUnlock now accountId stage answer
  | .loggingOut, .done | .loggingOut, .failed =>
      some { vault := vault.dispose, stage := .returned .loggedOut }
  | .fresh owner purpose (.checked ok), answer =>
      vault.resumeChecked parseOrigin sealPayload owner ok purpose answer
  | .fresh owner purpose stage, answer => vault.resumeFresh now owner purpose stage answer
  | .computingFill owner fields, .totp code =>
      -- A secret that gives no code leaves the code out.
      some
        { vault
          stage := .returned
            (.fields (if vault.holds owner then some { fields with totp := code } else none)) }
  | .computingTotp owner, .totp code =>
      some
        { vault
          stage := .returned
            (.totp
              (if vault.holds owner then code.map fun code => ⟨code, secondsRemaining now⟩
                else none)) }
  | .mutating owner itemId data, .mutated outcome =>
      some (vault.resumeMutating owner itemId data outcome)
  | _, _ => none

end Items

end VaultManager

def UnlockStage.host : UnlockStage → Option Nat
  | .loading _ _ host _ _ _ => some host
  | _ => none

def UnlockStage.completes : UnlockStage → VaultAnswer → Bool
  | .loading _ _ _ _ _ none, .notFound => true
  | .loading _ _ _ _ _ _, .changes page =>
      page.changes.isEmpty || (page.nextCursor.getD "").isEmpty
  | _, _ => false

def UnlockStage.fails : UnlockStage → VaultAnswer → Bool
  | _, .failed => true
  | .loading _ _ _ _ _ (some _), .notFound => true
  | _, _ => false

def UnlockStage.opens : UnlockStage → VaultAnswer → Bool
  | .creatingBackend _ _, .backend (some _) => true
  | _, _ => false

def VaultStage.isUnlock : VaultStage → Bool
  | .unlocking _ _ | .returned (.unlocked _) => true
  | _ => false

structure Touched (vault next : VaultManager) : Prop where
  installs : next.installs = vault.installs
  hosts : next.hosts = vault.hosts
  liveHosts : next.liveHosts = vault.liveHosts
  state : next.state.map (fun state => (state.id, state.host)) =
    vault.state.map fun state => (state.id, state.host)

theorem Touched.refl (vault : VaultManager) : Touched vault vault := ⟨rfl, rfl, rfl, rfl⟩

structure VaultProgress.Quiet (vault : VaultManager) (progress : VaultProgress) : Prop where
  same : Touched vault progress.vault
  stays : progress.stage.isUnlock = false
  quiet : progress.authFailed = false

inductive Resumed (vault : VaultManager) : VaultStage → VaultAnswer → VaultProgress → Prop where
  | unlockGoesOn (accountId : Id) (before after : UnlockStage) (answer : VaultAnswer)
      (host : after.host = before.host) :
      Resumed vault (.unlocking accountId before) answer
        { vault, stage := .unlocking accountId after }
  | unlockRefused (accountId : Id) (stage : UnlockStage) (answer : VaultAnswer)
      (noHost : stage.host = none) :
      Resumed vault (.unlocking accountId stage) answer
        { vault, stage := .returned (.unlocked false) }
  | unlockFailed (accountId : Id) (stage : UnlockStage) (answer : VaultAnswer)
      (fails : stage.fails answer = true) :
      Resumed vault (.unlocking accountId stage) answer
        { vault := vault.dispose, stage := .returned (.unlocked false) }
  | opened (accountId : Id) (session : ApiSession) (bundle : AccountBundle) (keySession : Nat) :
      Resumed vault (.unlocking accountId (.creatingBackend session bundle))
        (.backend (some keySession))
        { vault :=
            { vault with
              hosts := vault.hosts + 1
              liveHosts := (vault.hosts + 1) :: vault.liveHosts }
          stage := .unlocking accountId
            (.loading session bundle (vault.hosts + 1) keySession .empty none) }
  | installed (accountId : Id) (stage : UnlockStage) (answer : VaultAnswer) (now : Nat)
      (session : ApiSession) (bundle : AccountBundle) (host keySession : Nat)
      (items : InsertionMap Id ItemEntry) (mine : stage.host = some host)
      (completes : stage.completes answer = true) :
      Resumed vault (.unlocking accountId stage) answer
        (vault.install now session bundle host keySession items)
  | loggedOut (answer : VaultAnswer) :
      Resumed vault .loggingOut answer
        { vault := vault.dispose, stage := .returned .loggedOut }
  | touched (stage : VaultStage) (answer : VaultAnswer) (progress : VaultProgress)
      (other : stage.isUnlock = false) (quiet : progress.Quiet vault) :
      Resumed vault stage answer progress
  | authFailed (stage next : VaultStage) (answer : VaultAnswer) (other : stage.isUnlock = false)
      (stays : next.isUnlock = false) :
      Resumed vault stage answer (vault.handleAuthFailure next)

namespace VaultManager

variable {vault : VaultManager} {progress : VaultProgress} {answer : VaultAnswer}

theorem resumeUnlock_cases {now : Nat} {accountId : Id} {stage : UnlockStage}
    (resumed : vault.resumeUnlock now accountId stage answer = some progress) :
    Resumed vault (.unlocking accountId stage) answer progress := by
  unfold resumeUnlock at resumed
  split at resumed
  · cases resumed
    exact .unlockFailed _ _ _ rfl
  · cases resumed
    refine .unlockFailed _ _ _ ?_
    unfold UnlockStage.fails
    split <;> rfl
  · cases resumed
    exact .unlockGoesOn _ _ _ _ rfl
  · cases resumed
    exact .unlockGoesOn _ _ _ _ rfl
  · cases resumed
    exact .unlockGoesOn _ _ _ _ rfl
  · split at resumed <;> cases resumed
    · exact .unlockRefused _ _ _ rfl
    · exact .unlockGoesOn _ _ _ _ rfl
  · cases resumed
    exact .unlockRefused _ _ _ rfl
  · cases resumed
    exact .unlockRefused _ _ _ rfl
  · cases resumed
    exact .opened _ _ _ _
  · cases resumed
    exact .installed _ _ _ _ _ _ _ _ _ rfl rfl
  · dsimp only at resumed
    split at resumed <;> rename_i last <;> cases resumed
    · exact .installed _ _ _ _ _ _ _ _ _ rfl (by simpa [UnlockStage.completes] using last)
    · exact .unlockGoesOn _ _ _ _ rfl
  · cases resumed

theorem isUnlock_checkedStage (owner : Nat) (purpose : FreshPurpose) (ok : Bool) :
    (checkedStage owner purpose ok).isUnlock = false := by
  cases purpose <;> rfl

theorem touched_storeToken (vault : VaultManager) (owner : Nat) (session : ApiSession) :
    Touched vault (vault.storeToken owner session) := by
  refine ⟨rfl, rfl, rfl, ?_⟩
  cases held : vault.state with
  | none => simp [storeToken, held]
  | some state =>
      by_cases mine : state.id = owner <;> simp [storeToken, held, mine]

theorem resumeFresh_cases {now owner : Nat} {purpose : FreshPurpose} {stage : FreshStage}
    (resumed : vault.resumeFresh now owner purpose stage answer = some progress) :
    Resumed vault (.fresh owner purpose stage) answer progress := by
  have keeps (next : VaultManager) (after : VaultStage) (stays : after.isUnlock = false)
      (same : Touched vault next) :
      Resumed vault (.fresh owner purpose stage) answer { vault := next, stage := after } :=
    .touched _ _ _ rfl ⟨same, stays, rfl⟩
  have self := Touched.refl vault
  unfold resumeFresh at resumed
  split at resumed
  · split at resumed
    · cases resumed
      exact keeps _ _ rfl self
    · split at resumed <;> cases resumed
      exact keeps _ _ rfl self
  · cases resumed
    have stored := touched_storeToken vault owner
    exact keeps _ _ rfl ⟨rfl, rfl, rfl, (stored _).state⟩
  · cases resumed
    exact keeps _ _ rfl ⟨rfl, rfl, rfl, rfl⟩
  · cases resumed
    exact keeps _ _ rfl ⟨rfl, rfl, rfl, rfl⟩
  · split at resumed <;> cases resumed
    · exact .authFailed _ _ _ rfl rfl
    · exact keeps _ _ rfl ⟨rfl, rfl, rfl, rfl⟩
  · split at resumed <;> cases resumed
    · exact keeps _ _ rfl self
    · exact keeps _ _ (isUnlock_checkedStage _ _ _) self
  · split at resumed <;> cases resumed
    · exact keeps _ _ (isUnlock_checkedStage _ _ _) ⟨rfl, rfl, rfl, rfl⟩
    · exact keeps _ _ (isUnlock_checkedStage _ _ _) self
  · split at resumed <;> cases resumed
    · exact .authFailed _ _ _ rfl (isUnlock_checkedStage _ _ _)
    · exact keeps _ _ (isUnlock_checkedStage _ _ _) self
  · cases resumed

section Items

variable {parseOrigin : String → Option ParsedOrigin} {sealPayload : SealRequest → Option Bytes}

theorem fieldsOf_quiet (state : Unlocked) (itemId pageOrigin : String) :
    (vault.fieldsOf parseOrigin state itemId pageOrigin).Quiet vault := by
  unfold fieldsOf
  dsimp only
  repeat' split
  all_goals exact ⟨Touched.refl vault, rfl, rfl⟩

theorem totpOf_quiet (state : Unlocked) (itemId : String) :
    (vault.totpOf state itemId).Quiet vault := by
  unfold totpOf
  repeat' split
  all_goals exact ⟨Touched.refl vault, rfl, rfl⟩

theorem uploadOf_quiet (state : Unlocked) (input : SaveItemInput) (itemUuid mutationUuid : Id) :
    (vault.uploadOf sealPayload state input itemUuid mutationUuid).Quiet vault := by
  unfold uploadOf
  dsimp only
  split <;> exact ⟨Touched.refl vault, rfl, rfl⟩

theorem resumeChecked_quiet {owner : Nat} {ok : Bool} {purpose : FreshPurpose}
    (resumed : vault.resumeChecked parseOrigin sealPayload owner ok purpose answer =
      some progress) : progress.Quiet vault := by
  unfold resumeChecked at resumed
  dsimp only at resumed
  split at resumed <;> cases resumed
  · exact ⟨Touched.refl vault, rfl, rfl⟩
  · exact fieldsOf_quiet _ _ _
  · exact ⟨Touched.refl vault, rfl, rfl⟩
  · exact totpOf_quiet _ _
  · exact ⟨Touched.refl vault, rfl, rfl⟩
  · exact uploadOf_quiet _ _ _ _

theorem resumeMutating_cases {owner : Nat} {itemId : Id} {data : VaultItemData}
    {outcome : Except (Thrown ItemRecord Unit) (MutateOutcome ItemRecord)} :
    Resumed vault (.mutating owner itemId data) answer
      (vault.resumeMutating owner itemId data outcome) := by
  unfold resumeMutating
  dsimp only
  split
  · exact .authFailed _ _ _ rfl rfl
  · rename_i held _
    refine .touched _ _ _ rfl ⟨⟨rfl, rfl, rfl, ?_⟩, rfl, rfl⟩
    rw [Option.filter_eq_some_iff] at held
    rw [held.1]
    rfl
  · exact .touched _ _ _ rfl ⟨Touched.refl vault, rfl, rfl⟩

theorem startRefresh_quiet (now : Nat) (state : Unlocked) (purpose : FreshPurpose) :
    (vault.startRefresh now state purpose).Quiet vault := by
  unfold startRefresh
  split
  · exact ⟨Touched.refl vault, rfl, rfl⟩
  · split
    · exact ⟨Touched.refl vault, rfl, rfl⟩
    · exact ⟨⟨rfl, rfl, rfl, rfl⟩, rfl, rfl⟩

theorem startFresh_quiet (now : Nat) (state : Unlocked) (purpose : FreshPurpose) :
    (vault.startFresh now state purpose).Quiet vault := by
  unfold startFresh
  split
  · exact ⟨Touched.refl vault, isUnlock_checkedStage _ _ _, rfl⟩
  · exact startRefresh_quiet now state purpose

theorem checkFresh_quiet (now : Nat) : (vault.checkFresh now).Quiet vault := by
  unfold checkFresh
  split
  · exact ⟨Touched.refl vault, rfl, rfl⟩
  · exact startFresh_quiet _ _ _

theorem fieldsFor_quiet (now : Nat) (itemId pageOrigin : String) :
    (vault.fieldsFor now itemId pageOrigin).Quiet vault := by
  unfold fieldsFor
  split
  · exact ⟨Touched.refl vault, rfl, rfl⟩
  · exact startFresh_quiet _ _ _

theorem getTotp_quiet (now : Nat) (itemId : String) : (vault.getTotp now itemId).Quiet vault := by
  unfold getTotp
  split
  · exact ⟨Touched.refl vault, rfl, rfl⟩
  · exact startFresh_quiet _ _ _

theorem saveItem_quiet (now : Nat) (input : SaveItemInput) :
    (vault.saveItem now input).Quiet vault := by
  unfold saveItem
  dsimp only
  split
  · exact ⟨Touched.refl vault, rfl, rfl⟩
  · split
    · exact ⟨Touched.refl vault, rfl, rfl⟩
    · exact startFresh_quiet _ _ _

theorem resume_cases {now : Nat} {stage : VaultStage}
    (resumed : vault.resume parseOrigin sealPayload now stage answer = some progress) :
    Resumed vault stage answer progress := by
  unfold VaultManager.resume at resumed
  split at resumed
  · exact resumeUnlock_cases resumed
  · cases resumed
    exact .loggedOut _
  · cases resumed
    exact .loggedOut _
  · exact .touched _ _ _ rfl (resumeChecked_quiet resumed)
  · exact resumeFresh_cases resumed
  · cases resumed
    exact .touched _ _ _ rfl ⟨Touched.refl vault, rfl, rfl⟩
  · cases resumed
    exact .touched _ _ _ rfl ⟨Touched.refl vault, rfl, rfl⟩
  · cases resumed
    exact resumeMutating_cases
  · cases resumed

end Items

end VaultManager

end ZenPass.Extension
