import ZenPass.Sync.Mutation

set_option autoImplicit false

-- The in-process stores of both backends, the account rows and the fixed-window counters. The maps
-- are functions; the clock readings are arguments.

namespace ZenPass.Auth

open Wire
open Sync (Id Backend)

abbrev RequestId := Nat

inductive PendingLogin where
  | real (stateBytes : Bytes)
  | fake
deriving DecidableEq, Repr

/-- `storedBy` is the request that stored the entry; the code does not keep it. -/
structure Entry where
  pending : PendingLogin
  expiresAt : Nat
  storedBy : RequestId
deriving DecidableEq, Repr

abbrev LoginStates := Id → Option Entry

namespace LoginStates

def evictExpired (states : LoginStates) (now : Nat) : LoginStates :=
  fun accountId => (states accountId).filter fun entry => decide (now < entry.expiresAt)

/-- `setReal` and `setFake`. Node reads the clock once more for the expiry. -/
def set (states : LoginStates) (accountId : Id) (pending : PendingLogin) (storedBy : RequestId)
    (now storedAt ttl : Nat) : LoginStates :=
  Function.update (states.evictExpired now) accountId
    (some { pending, expiresAt := storedAt + ttl, storedBy })

def hasPending (states : LoginStates) (accountId : Id) (now : Nat) : Bool :=
  (states.evictExpired now accountId).isSome

def pendingAt (states : LoginStates) (accountId : Id) (now : Nat) : Option Entry :=
  states.evictExpired now accountId

def afterTake (states : LoginStates) (accountId : Id) (now : Nat) : LoginStates :=
  Function.update (states.evictExpired now) accountId none

variable {states : LoginStates} {accountId other : Id} {now : Nat}

theorem evictExpired_eq_some {entry : Entry} :
    states.evictExpired now accountId = some entry ↔
      states accountId = some entry ∧ now < entry.expiresAt := by
  simp [evictExpired, Option.filter_eq_some_iff]

theorem set_self (pending : PendingLogin) (storedBy : RequestId) (storedAt ttl : Nat) :
    states.set accountId pending storedBy now storedAt ttl accountId =
      some ⟨pending, storedAt + ttl, storedBy⟩ := Function.update_self ..

theorem set_of_ne {pending : PendingLogin} {storedBy : RequestId} {storedAt ttl : Nat}
    {entry : Entry} (apart : other ≠ accountId)
    (found : states.set accountId pending storedBy now storedAt ttl other = some entry) :
    states other = some entry := by
  rw [set, Function.update_of_ne apart, evictExpired_eq_some] at found
  exact found.1

theorem afterTake_eq_some {entry : Entry} (found : states.afterTake accountId now other = some entry) :
    other ≠ accountId ∧ states other = some entry := by
  by_cases same : other = accountId
  · simp [afterTake, same] at found
  · rw [afterTake, Function.update_of_ne same, evictExpired_eq_some] at found
    exact ⟨same, found.1⟩

end LoginStates

structure Bucket where
  count : Nat
  windowEnd : Nat
deriving DecidableEq, Repr

abbrev Buckets := String → Option Bucket

namespace Buckets

def attempt (buckets : Buckets) (key : String) (now window : Nat) : Bucket :=
  match (buckets key).filter fun bucket => decide (now < bucket.windowEnd) with
  | none => ⟨1, now + window⟩
  | some bucket => { bucket with count := bucket.count + 1 }

def allow (buckets : Buckets) (key : String) (now window max : Nat) : Bool :=
  decide ((buckets.attempt key now window).count ≤ max)

def afterAllow (buckets : Buckets) (key : String) (now window : Nat) : Buckets :=
  Function.update
    (fun other => (buckets other).filter fun bucket => decide (now < bucket.windowEnd))
    key (some (buckets.attempt key now window))

end Buckets

abbrev Windows := List (Nat × Nat)

def Windows.count (windows : Windows) (windowStart : Nat) : Nat :=
  (windows.lookup windowStart).getD 0

def Windows.increment (windows : Windows) (windowStart : Nat) : Windows :=
  (windowStart, windows.count windowStart + 1) ::
    windows.filter fun row => decide (row.1 ≠ windowStart)

/-- The two statements of `cleanupStaleAuthState`. `referenced` holds of the accounts that rows of
other tables or of another scope refer to. -/
inductive Sweep where
  | rateLimits (cutoff : Nat)
  | accounts (cutoff : Nat) (referenced : Id → Bool)

structure LoginServer where
  states : LoginStates
  buckets : Buckets
  accounts : Id → Option Nat
  limits : Id → Windows
  credentials : Id → Option Bytes

namespace LoginServer

def ensureAccount (server : LoginServer) (accountId : Id) (now : Nat) : LoginServer :=
  { server with
    accounts := Function.update server.accounts accountId
      (some ((server.accounts accountId).getD now)) }

def windowStart (now window : Nat) : Nat := now / window * window

def withinLimit (server : LoginServer) (accountId : Id) (now window max : Nat) : Bool :=
  decide ((server.limits accountId).count (windowStart now window) + 1 ≤ max)

def increment (server : LoginServer) (accountId : Id) (now window : Nat) : LoginServer :=
  { server with
    limits := Function.update server.limits accountId
      ((server.limits accountId).increment (windowStart now window)) }

def swept (server : LoginServer) (cutoff : Nat) (referenced : Id → Bool) (accountId : Id)
    (createdAt : Nat) : Bool :=
  decide (createdAt < cutoff) && (server.credentials accountId).isNone &&
    !referenced accountId && (server.limits accountId).isEmpty

def sweep (server : LoginServer) : Sweep → LoginServer
  | .rateLimits cutoff =>
      { server with
        limits := fun accountId =>
          (server.limits accountId).filter fun row => decide (cutoff ≤ row.1) }
  | .accounts cutoff referenced =>
      { server with
        accounts := fun accountId =>
          (server.accounts accountId).filter fun createdAt =>
            !server.swept cutoff referenced accountId createdAt }

def sweepAll (server : LoginServer) (sweeps : List Sweep) : LoginServer :=
  sweeps.foldl sweep server

def saveCredentialRecordIfAbsent (server : LoginServer) (accountId : Id) (record : Bytes) :
    LoginServer :=
  { server with
    credentials := Function.update server.credentials accountId
      (some ((server.credentials accountId).getD record)) }

def restart (server : LoginServer) : LoginServer :=
  { server with states := fun _ => none, buckets := fun _ => none }

def initial : LoginServer where
  states := fun _ => none
  buckets := fun _ => none
  accounts := fun _ => none
  limits := fun _ => []
  credentials := fun _ => none

end LoginServer

end ZenPass.Auth
