import Mathlib.Algebra.Group.Int.Defs
import Mathlib.Data.List.DropRight
import ZenPass.Wire.B64

set_option autoImplicit false

namespace ZenPass.Sync

open Wire

abbrev Id := String

inductive Backend where
  | node
  | rust
deriving DecidableEq, Repr

abbrev Timestamp := Nat

/-- A timestamp as a backend writes it into JSON: `toISOString` keeps milliseconds, `rfc3339`
microseconds. -/
inductive WireTime where
  | isoString (milliseconds : Nat)
  | rfc3339 (microseconds : Nat)
deriving DecidableEq, Repr

def wireTime : Backend → Timestamp → WireTime
  | .node, time => .isoString (time / 1000)
  | .rust, time => .rfc3339 time

structure ItemRow where
  vaultId : Id
  itemId : Id
  ciphertext : Bytes
  envelopeVersion : String
  revision : Nat
  deleted : Bool
  createdAt : Timestamp
  updatedAt : Timestamp
  sequence : Nat
deriving DecidableEq, Repr

def revisionOf (row : Option ItemRow) : Nat := row.elim 0 ItemRow.revision

structure ItemRecord where
  itemId : Id
  vaultId : Id
  ciphertext : String
  envelopeVersion : String
  revision : Nat
  deleted : Bool
  createdAt : WireTime
  updatedAt : WireTime
deriving DecidableEq, Repr

def toItemRecord (backend : Backend) (row : ItemRow) : ItemRecord where
  itemId := row.itemId
  vaultId := row.vaultId
  ciphertext := encodeB64 row.ciphertext
  envelopeVersion := row.envelopeVersion
  revision := row.revision
  deleted := row.deleted
  createdAt := wireTime backend row.createdAt
  updatedAt := wireTime backend row.updatedAt

structure Mutation where
  mutationId : Id
  itemId : Id
  vaultId : Id
  baseRevision : Int
  ciphertext : String
  envelopeVersion : String
  deleted : Bool
deriving DecidableEq, Repr

def isValidId (value : String) : Bool :=
  match value.toList with
  | [] => false
  | first :: rest =>
      first.isAlphanum && decide (rest.length ≤ 127) &&
        rest.all fun c => c.isAlphanum || c == '_' || c == '-'

def isValidCiphertext (value : String) : Bool :=
  match value.toList with
  | 'b' :: '6' :: '4' :: ':' :: body =>
      let core := body.rdropWhile (· == '=')
      !core.isEmpty && decide (body.length - core.length ≤ 2) &&
        core.all fun c => c.isAlphanum || c == '+' || c == '/'
  | _ => false

def envelopeVersionV1 : String := "crypto-envelope/v1"

/-- The Rust backend reads `baseRevision` into an `i64`. -/
def isValidMutation (backend : Backend) (mutation : Mutation) : Bool :=
  isValidId mutation.mutationId && isValidId mutation.itemId && isValidId mutation.vaultId &&
    decide (0 ≤ mutation.baseRevision) &&
    (backend == .node || decide (mutation.baseRevision < 2 ^ 63)) &&
    isValidCiphertext mutation.ciphertext && mutation.envelopeVersion == envelopeVersionV1

inductive ResponseBody where
  | record (item : ItemRecord)
  | conflict (mutationId : Id) (current : ItemRecord) (attempted : Mutation)
deriving DecidableEq, Repr

structure MutationOutcome where
  vaultId : Id
  statusCode : Nat
  responseBody : ResponseBody
deriving DecidableEq, Repr

/-- How `applyMutation` ends; `failed` is an exception, answered after a rollback. -/
inductive ApplyOutcome where
  | notFound
  | badRequest
  | response (statusCode : Nat) (body : ResponseBody)
  | failed
deriving DecidableEq, Repr

end ZenPass.Sync
