import Mathlib.Algebra.Group.Nat.Defs
import ZenPass.Auth.LoginState
import ZenPass.Lib.KeyedStore
import ZenPass.Lib.Transition

set_option autoImplicit false

-- The statements that `POST /auth/opaque/register` and `POST /auth/opaque/login` make of both
-- backends, interleaved with each other and with those of the sweeps. OPAQUE accepts or refuses as
-- the step says. Times are in microseconds, the resolution of the database.

namespace ZenPass.Auth

open KeyedStore
open Sync (Id Backend)

inductive Scope where
  | register
  | login
deriving DecidableEq, Repr

structure WindowKey where
  accountId : Id
  scope : Scope
  windowStart : Nat
deriving DecidableEq, Repr

/-- A row of `accounts`; `row` tells it from a later row of the same account. -/
structure AccountRow where
  accountId : Id
  createdAt : Nat
  row : Nat
deriving DecidableEq, Repr

/-- The other tables with a foreign key to `accounts`. -/
inductive Referencing where
  | opaqueCredentials
  | sessions
  | devices
  | keyBundles
  | vaults
  | mutationOutcomes
deriving DecidableEq, Repr

structure RateLimit where
  max : Nat
  windowSeconds : Nat
  positive : 0 < windowSeconds
  bounded : windowSeconds ≤ 86400

def retention : Nat := 24 * 60 * 60 * 1000 * 1000

namespace RateLimit

def windowMs (limit : RateLimit) : Nat := limit.windowSeconds * 1000

def window (limit : RateLimit) : Nat := limit.windowMs * 1000

def windowStart (limit : RateLimit) (now : Nat) : Nat :=
  now / 1000 / limit.windowMs * limit.windowMs * 1000

theorem window_le_retention (limit : RateLimit) : limit.window ≤ retention := by
  have bounded := limit.bounded
  unfold window windowMs retention
  omega

theorem windowStart_running (limit : RateLimit) (now : Nat) :
    limit.windowStart now ≤ now ∧ now < limit.windowStart now + limit.window := by
  have positive : 0 < limit.windowMs := Nat.mul_pos limit.positive (by decide)
  have split := Nat.div_add_mod (now / 1000) limit.windowMs
  have rest := Nat.mod_lt (now / 1000) positive
  rw [Nat.mul_comm] at split
  unfold windowStart window
  -- The two divisions rounded down, by less than a window together.
  omega

end RateLimit

structure Tables where
  accounts : List AccountRow := []
  rateLimits : InsertionMap WindowKey Nat := .empty
  references : List (Referencing × Id) := []
  rows : Nat := 0

namespace Tables

def hasAccount (tables : Tables) (accountId : Id) : Bool :=
  tables.accounts.any fun row => row.accountId == accountId

def hasReference (tables : Tables) (table : Referencing) (accountId : Id) : Bool :=
  tables.references.contains (table, accountId)

def isReferenced (tables : Tables) (accountId : Id) : Bool :=
  (tables.references.any fun reference => reference.2 == accountId) ||
    tables.rateLimits.keys.any fun key => key.accountId == accountId

def ensureAccount (tables : Tables) (accountId : Id) (now : Nat) : Tables :=
  if tables.hasAccount accountId then tables
  else
    { tables with
      accounts := tables.accounts ++ [⟨accountId, now, tables.rows⟩]
      rows := tables.rows + 1 }

/-- The upsert of `checkAndIncrement` with the count that it returns. A new row needs its account,
and the count is an `integer`. -/
def increment (tables : Tables) (key : WindowKey) : Option (Tables × Nat) :=
  match tables.rateLimits.get key with
  | none =>
      if tables.hasAccount key.accountId then
        some ({ tables with rateLimits := tables.rateLimits.set key 1 }, 1)
      else none
  | some count =>
      if count + 1 < 2 ^ 31 then
        some ({ tables with rateLimits := tables.rateLimits.set key (count + 1) }, count + 1)
      else none

def insertReference (tables : Tables) (table : Referencing) (accountId : Id) : Option Tables :=
  if tables.hasAccount accountId then
    some { tables with references := (table, accountId) :: tables.references }
  else none

def saveCredentialRecordIfAbsent (tables : Tables) (accountId : Id) : Option Tables :=
  if tables.hasReference .opaqueCredentials accountId then some tables
  else tables.insertReference .opaqueCredentials accountId

def deleteRateLimits (tables : Tables) (now : Nat) : Tables :=
  { tables with
    rateLimits := tables.rateLimits.filter fun key => decide (now ≤ key.windowStart + retention) }

def staleAccounts (tables : Tables) (now : Nat) : List AccountRow :=
  tables.accounts.filter fun row =>
    decide (row.createdAt + retention < now) && !tables.isReferenced row.accountId

/-- The rows of the snapshot that are still there go, all or, by the foreign keys, none. -/
def deleteAccounts (tables : Tables) (stale : List AccountRow) : Option Tables :=
  if (tables.accounts.filter stale.contains).any fun row => tables.isReferenced row.accountId then
    none
  else some { tables with accounts := tables.accounts.filter fun row => !stale.contains row }

end Tables

inductive CallKind where
  | registrationRequest
  | registrationRecord
  | login (hasPending : Bool)
deriving DecidableEq, Repr

structure AuthCall where
  accountId : Id
  kind : CallKind
deriving DecidableEq, Repr

def AuthCall.scope (call : AuthCall) : Scope :=
  match call.kind with
  | .registrationRequest | .registrationRecord => .register
  | .login _ => .login

def AuthCall.key (call : AuthCall) (windowStart : Nat) : WindowKey :=
  ⟨call.accountId, call.scope, windowStart⟩

inductive AuthPhase where
  | ensureAccount (call : AuthCall)
  | readClock (call : AuthCall)
  | increment (call : AuthCall) (windowStart : Nat)
  | saveCredential (accountId : Id)
  | getCredentialRecord (accountId : Id)
  | loginStart (accountId : Id) (found : Bool)
  | takePending (accountId : Id)
  | issueSession (accountId : Id)
deriving DecidableEq, Repr

inductive AuthAnswer where
  | message
  | registered
  | session
  | badRequest
  | unauthorized
  | failed
deriving DecidableEq, Repr

inductive SweepPhase where
  | deletingRateLimits (now : Nat)
  | findingAccounts (now : Nat)
  | deletingAccounts (stale : List AccountRow)
deriving DecidableEq, Repr

def Scope.refusal : Scope → AuthAnswer
  | .register => .badRequest
  | .login => .unauthorized

def AuthPhase.scope : AuthPhase → Scope
  | .ensureAccount call | .readClock call | .increment call _ => call.scope
  | .saveCredential _ => .register
  | .getCredentialRecord _ | .loginStart _ _ | .takePending _ | .issueSession _ => .login

/-- Rust answers a statement that fails like a request that it refuses. -/
def AuthPhase.databaseError (phase : AuthPhase) : Backend → AuthAnswer
  | .node => .failed
  | .rust => phase.scope.refusal

def readNow (backend : Backend) (clock : Nat) : Nat :=
  match backend with
  | .node => clock / 1000 * 1000
  | .rust => clock

/-- `counted` is the history of the counts that the upserts have returned, and `missing` that of the
requests that a foreign key has refused. `swept` is the latest time of a sweep that has deleted its
windows. -/
structure Throttle where
  clock : Nat := 0
  tables : Tables := {}
  states : LoginStates := fun _ => none
  requests : InsertionMap Nat AuthPhase := .empty
  sweeps : InsertionMap Nat SweepPhase := .empty
  answers : List (Nat × AuthAnswer) := []
  counted : List (WindowKey × Nat) := []
  missing : List (Nat × AuthPhase) := []
  swept : Nat := 0

inductive ThrottleAction where
  | tick (elapsed : Nat)
  | register (t : Nat) (accountId : Id) (isRecord : Bool)
  | login (t : Nat) (accountId : Id)
  -- OPAQUE accepts what the step gives it.
  | advance (t : Nat) (accepted : Bool)
  -- A statement fails that has not been executed, or the process is gone.
  | drop (t : Nat)
  | sweep (s : Nat)
  | advanceSweep (s : Nat)
  | dropSweep (s : Nat)
  | refer (table : Referencing) (accountId : Id)
deriving DecidableEq, Repr

namespace Throttle

def goesOn (throttle : Throttle) (t : Nat) (phase : AuthPhase) : Throttle :=
  { throttle with requests := throttle.requests.set t phase }

def answer (throttle : Throttle) (t : Nat) (answer : AuthAnswer) : Throttle :=
  { throttle with
    requests := throttle.requests.delete t
    answers := throttle.answers ++ [(t, answer)] }

def refuse (throttle : Throttle) (backend : Backend) (t : Nat) (phase : AuthPhase) : Throttle :=
  { throttle with missing := throttle.missing ++ [(t, phase)] }.answer t
    (phase.databaseError backend)

section Steps

variable (backend : Backend) (limit : RateLimit) (ttl : Nat)

def afterLimit (throttle : Throttle) (t : Nat) (call : AuthCall) : Throttle :=
  match call.kind with
  | .registrationRequest => throttle.answer t .message
  | .registrationRecord => throttle.goesOn t (.saveCredential call.accountId)
  | .login false => throttle.goesOn t (.getCredentialRecord call.accountId)
  | .login true => throttle.goesOn t (.takePending call.accountId)

def perform (throttle : Throttle) (t : Nat) (accepted : Bool) (phase : AuthPhase) : Throttle :=
  match phase with
  | .ensureAccount call =>
      { throttle with
        tables := throttle.tables.ensureAccount call.accountId throttle.clock }.goesOn t
        (.readClock call)
  | .readClock call =>
      -- The upsert runs later, in whatever window the clock then is.
      throttle.goesOn t (.increment call (limit.windowStart throttle.clock))
  | .increment call windowStart =>
      let key := call.key windowStart
      match throttle.tables.increment key with
      | none =>
          -- With its account there, only the count can have been refused.
          if throttle.tables.hasAccount call.accountId then
            throttle.answer t (phase.databaseError backend)
          else throttle.refuse backend t phase
      | some (tables, count) =>
          let counted := { throttle with tables, counted := throttle.counted ++ [(key, count)] }
          if count ≤ limit.max then counted.afterLimit t call
          else counted.answer t call.scope.refusal
  | .saveCredential accountId =>
      match throttle.tables.saveCredentialRecordIfAbsent accountId with
      | none => throttle.refuse backend t phase
      | some tables => { throttle with tables }.answer t .registered
  | .getCredentialRecord accountId =>
      throttle.goesOn t
        (.loginStart accountId (throttle.tables.hasReference .opaqueCredentials accountId))
  | .loginStart accountId found =>
      -- An unknown account gets a decoy, which OPAQUE has no part in.
      if found && !accepted then throttle.answer t .unauthorized
      else
        { throttle with
          states := throttle.states.set accountId (if found then .real [] else .fake) t
            throttle.clock throttle.clock ttl }.answer t .message
  | .takePending accountId =>
      let taken := { throttle with states := throttle.states.afterTake accountId throttle.clock }
      -- Rust finishes the login in an await of its own, which touches nothing else.
      match throttle.states.pendingAt accountId throttle.clock with
      | some ⟨.real _, _, _⟩ =>
          if accepted then taken.goesOn t (.issueSession accountId) else taken.answer t .unauthorized
      | _ => taken.answer t .unauthorized
  | .issueSession accountId =>
      match throttle.tables.insertReference .sessions accountId with
      | none => throttle.refuse backend t phase
      | some tables => { throttle with tables }.answer t .session

def performSweep (throttle : Throttle) (s : Nat) : SweepPhase → Throttle
  | .deletingRateLimits now =>
      { throttle with
        tables := throttle.tables.deleteRateLimits now
        sweeps := throttle.sweeps.set s (.findingAccounts now)
        swept := max throttle.swept now }
  | .findingAccounts now =>
      { throttle with
        sweeps := throttle.sweeps.set s
          -- What the statement deletes it looks for in its snapshot.
          (.deletingAccounts (throttle.tables.staleAccounts now)) }
  | .deletingAccounts stale =>
      { throttle with
        -- One foreign key that fails undoes the whole statement.
        tables := (throttle.tables.deleteAccounts stale).getD throttle.tables
        sweeps := throttle.sweeps.delete s }

def arrive (throttle : Throttle) (t : Nat) (call : AuthCall) : Option Throttle :=
  match throttle.requests.get t with
  | some _ => none
  | none => some (throttle.goesOn t (.ensureAccount call))

def step (throttle : Throttle) : ThrottleAction → Option Throttle
  | .tick elapsed => some { throttle with clock := throttle.clock + elapsed }
  | .register t accountId isRecord =>
      -- The OPAQUE step of a registration comes before its first statement.
      throttle.arrive t
        ⟨accountId, if isRecord then .registrationRecord else .registrationRequest⟩
  | .login t accountId =>
      throttle.arrive t ⟨accountId, .login (throttle.states.hasPending accountId throttle.clock)⟩
  | .advance t accepted =>
      (throttle.requests.get t).map (throttle.perform backend limit ttl t accepted)
  | .drop t =>
      (throttle.requests.get t).map fun phase => throttle.answer t (phase.databaseError backend)
  | .sweep s =>
      match throttle.sweeps.get s with
      | some _ => none
      | none =>
          some { throttle with
            sweeps := throttle.sweeps.set s
              (.deletingRateLimits (readNow backend throttle.clock)) }
  | .advanceSweep s => (throttle.sweeps.get s).map (throttle.performSweep s)
  | .dropSweep s => some { throttle with sweeps := throttle.sweeps.delete s }
  | .refer table accountId =>
      (throttle.tables.insertReference table accountId).map fun tables => { throttle with tables }

end Steps

end Throttle

end ZenPass.Auth
