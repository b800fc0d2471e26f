import Mathlib.Tactic.Common

set_option autoImplicit false

-- What both vault managers are to keep to, in terms of what they release and when they last heard
-- from the server. Unlocked states are numbered in the order of their installation.

namespace ZenPass.Client

def freshWindowMs : Nat := 30000

/-- A fresh check that lets its method go on: when it was, whether its state was installed then, and
when the last exchange of that state with the server had succeeded. -/
structure Check where
  owner : Nat
  time : Nat
  held : Bool
  exchangedAt : Option Nat
deriving DecidableEq, Repr

/-- Fields or a code that are returned, or a save that is sent: by a method of which state, whether
it is installed, whether a failure of its authentication has been observed, and the method's check. -/
structure Release where
  owner : Option Nat
  held : Bool
  authFailed : Bool
  check : Option Check
deriving DecidableEq, Repr

def Check.Fresh (check : Check) (owner : Nat) : Prop :=
  check.owner = owner ∧ check.held = true ∧
    ∃ exchangedAt ∈ check.exchangedAt, check.time ≤ exchangedAt + freshWindowMs

def Release.Fresh (release : Release) : Prop :=
  release.held = true ∧ release.authFailed = false ∧
    ∃ owner ∈ release.owner, ∃ check ∈ release.check, check.Fresh owner

end ZenPass.Client
