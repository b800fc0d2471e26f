import Mathlib.Algebra.Group.Nat.Defs
import ZenPass.Lib.ReadCommitted
import ZenPass.Lib.Transition
import ZenPass.Sync.Mutation

set_option autoImplicit false

-- A `PUT /account/key-bundle` runs the statements of `publishKeyBundle` one at a time; the uploads
-- of one account interleave in any order. A statement that has to wait is not enabled.

namespace ZenPass.Account

open Wire ReadCommitted
open Sync (Id Backend)

abbrev TxId := Nat

structure BundleRow where
  bundle : Bytes
  version : Int
deriving DecidableEq, Repr

def maxVersion : Int := 2147483647

inductive Outcome where
  | created
  | idempotent
  | replaced
  | conflict (currentVersion : Option Int)
deriving DecidableEq, Repr

/-- How an upload ends; `exhausted` is the exception behind the loop, `failed` any other one. -/
inductive Answer where
  | outcome (outcome : Outcome)
  | exhausted
  | failed
deriving DecidableEq, Repr

inductive Phase where
  | selectForUpdate
  | insert
  | update
  | commit (outcome : Outcome)
  | rollback (outcome : Outcome)
  | rollbackRetry
  | answered (answer : Answer)
deriving DecidableEq, Repr

/-- `existing` is what the last select returned, `row` what the transaction has locked or
written. -/
structure Upload where
  backend : Backend
  accountId : Id
  bytes : Bytes
  attemptedVersion : Int
  attempt : Nat := 0
  existing : Option BundleRow := none
  row : Option BundleRow := none
  phase : Phase := .selectForUpdate
deriving DecidableEq, Repr

structure Server where
  bundles : Table Id TxId BundleRow
  uploads : TxId → Option Upload

namespace Server

def initial : Server where
  bundles := fun _ => {}
  uploads := fun _ => none

def stored (server : Server) (accountId : Id) : Option BundleRow :=
  (server.bundles accountId).committed

def resume (server : Server) (t : TxId) (upload : Upload) : Server :=
  { server with uploads := Function.update server.uploads t (some upload) }

@[simp] theorem resume_opened (server : Server) (t : TxId) (upload : Upload) :
    (server.resume t upload).uploads t = some upload := Function.update_self _ _ _

end Server

def succVersion : Backend → Int → Int
  | .node, version => version + 1
  | .rust, version => (version + 1).bmod (2 ^ 32)

def compareVersion (upload : Upload) (existing : Option BundleRow) : Phase :=
  match existing with
  | none => if upload.attemptedVersion ≠ 1 then .rollback (.conflict none) else .insert
  | some row =>
      if row.version = upload.attemptedVersion then
        .rollback (if row.bundle = upload.bytes then .idempotent else .conflict (some row.version))
      else if upload.attemptedVersion ≠ succVersion upload.backend row.version then
        .rollback (.conflict (some row.version))
      else .update

def Upload.uploadedRow (upload : Upload) : BundleRow := ⟨upload.bytes, upload.attemptedVersion⟩

def statement (server : Server) (t : TxId) (upload : Upload) : Option Server :=
  let slot := server.bundles upload.accountId
  match upload.phase with
  | .selectForUpdate =>
      if upload.attempt < 5 then
        -- A row that only another transaction has inserted is neither seen nor waited for.
        match slot.committed with
        | none =>
            some (server.resume t
              { upload with existing := none, phase := compareVersion upload none })
        | some row =>
            if slot.available t then
              some ({ server with
                  bundles := server.bundles.hold upload.accountId t (some row) }.resume t
                { upload with
                  existing := some row
                  row := some row
                  phase := compareVersion upload (some row) })
            else none
      else some (server.resume t { upload with phase := .answered .exhausted })
  | .insert =>
      if slot.available t then
        match slot.committed with
        | none =>
            some ({ server with
                bundles := server.bundles.hold upload.accountId t (some upload.uploadedRow) }.resume t
              { upload with row := some upload.uploadedRow, phase := .commit .created })
        -- Unique violation 23505.
        | some _ => some (server.resume t { upload with phase := .rollbackRetry })
      else none
  | .update =>
      if slot.available t then
        match slot.view t with
        | none => some (server.resume t { upload with phase := .commit .replaced })
        | some _ =>
            some ({ server with
                bundles := server.bundles.hold upload.accountId t (some upload.uploadedRow) }.resume t
              { upload with row := some upload.uploadedRow, phase := .commit .replaced })
      else none
  | .commit outcome =>
      some ({ server with bundles := server.bundles.commit t }.resume t
        { upload with row := none, phase := .answered (.outcome outcome) })
  | .rollback outcome =>
      some ({ server with bundles := server.bundles.abort t }.resume t
        { upload with row := none, phase := .answered (.outcome outcome) })
  | .rollbackRetry =>
      some ({ server with bundles := server.bundles.abort t }.resume t
        { upload with row := none, attempt := upload.attempt + 1, phase := .selectForUpdate })
  | .answered _ => none

inductive Action where
  | put (t : TxId) (backend : Backend) (accountId : Id) (bytes : Bytes) (version : Int)
  | statement (t : TxId)
  -- Any error on the way: a lost connection, a deadlock.
  | fail (t : TxId)
deriving DecidableEq, Repr

abbrev BundleCodec := Backend → Bytes → Option Id

variable (codec : BundleCodec)

def putKeyBundle (backend : Backend) (accountId : Id) (bytes : Bytes) (version : Int) :
    Option Upload :=
  if 1 ≤ version ∧ version ≤ maxVersion ∧ codec backend bytes = some accountId then
    some { backend, accountId, bytes, attemptedVersion := version }
  else none

def step (server : Server) : Action → Option Server
  | .put t backend accountId bytes version =>
      match server.uploads t with
      | some _ => none
      | none => (putKeyBundle codec backend accountId bytes version).map (server.resume t)
  | .statement t => (server.uploads t).bind (statement server t)
  | .fail t =>
      (server.uploads t).bind fun upload =>
        match upload.phase with
        | .answered _ => none
        | _ =>
            some ({ server with bundles := server.bundles.abort t }.resume t
              { upload with row := none, phase := .answered .failed })

inductive Executed (server : Server) (t : TxId) (upload : Upload) : Server → Prop where
  | absent (phase : upload.phase = .selectForUpdate)
      (missing : server.stored upload.accountId = none) :
      Executed server t upload (server.resume t
        { upload with existing := none, phase := compareVersion upload none })
  | locked (row : BundleRow) (phase : upload.phase = .selectForUpdate)
      (found : server.stored upload.accountId = some row)
      (available : (server.bundles upload.accountId).available t = true) :
      Executed server t upload
        ({ server with bundles := server.bundles.hold upload.accountId t (some row) }.resume t
          { upload with
            existing := some row
            row := some row
            phase := compareVersion upload (some row) })
  | exhausted (phase : upload.phase = .selectForUpdate) (attempts : 5 ≤ upload.attempt) :
      Executed server t upload (server.resume t { upload with phase := .answered .exhausted })
  | inserted (phase : upload.phase = .insert)
      (missing : server.stored upload.accountId = none)
      (available : (server.bundles upload.accountId).available t = true) :
      Executed server t upload
        ({ server with
            bundles := server.bundles.hold upload.accountId t (some upload.uploadedRow) }.resume t
          { upload with row := some upload.uploadedRow, phase := .commit .created })
  | lostRace (row : BundleRow) (phase : upload.phase = .insert)
      (found : server.stored upload.accountId = some row) :
      Executed server t upload (server.resume t { upload with phase := .rollbackRetry })
  | updatedNothing (phase : upload.phase = .update)
      (missing : (server.bundles upload.accountId).view t = none) :
      Executed server t upload (server.resume t { upload with phase := .commit .replaced })
  | updated (phase : upload.phase = .update)
      (available : (server.bundles upload.accountId).available t = true) :
      Executed server t upload
        ({ server with
            bundles := server.bundles.hold upload.accountId t (some upload.uploadedRow) }.resume t
          { upload with row := some upload.uploadedRow, phase := .commit .replaced })
  | committed (outcome : Outcome) (phase : upload.phase = .commit outcome) :
      Executed server t upload ({ server with bundles := server.bundles.commit t }.resume t
        { upload with row := none, phase := .answered (.outcome outcome) })
  | rolledBack (outcome : Outcome) (phase : upload.phase = .rollback outcome) :
      Executed server t upload ({ server with bundles := server.bundles.abort t }.resume t
        { upload with row := none, phase := .answered (.outcome outcome) })
  | retried (phase : upload.phase = .rollbackRetry) :
      Executed server t upload ({ server with bundles := server.bundles.abort t }.resume t
        { upload with row := none, attempt := upload.attempt + 1, phase := .selectForUpdate })

theorem statement_cases {server next : Server} {t : TxId} {upload : Upload}
    (executed : statement server t upload = some next) : Executed server t upload next := by
  unfold statement at executed
  dsimp only at executed
  split at executed
  case h_1 phase =>
    split at executed
    · split at executed
      · cases executed
        exact .absent phase ‹_›
      · split at executed <;> cases executed
        exact .locked _ phase ‹_› ‹_›
    · cases executed
      exact .exhausted phase (by omega)
  case h_2 phase =>
    split at executed
    · split at executed <;> cases executed
      · exact .inserted phase ‹_› ‹_›
      · exact .lostRace _ phase ‹_›
    · cases executed
  case h_3 phase =>
    split at executed
    · split at executed <;> cases executed
      · exact .updatedNothing phase ‹_›
      · exact .updated phase ‹_›
    · cases executed
  case h_4 outcome phase =>
    cases executed
    exact .committed outcome phase
  case h_5 outcome phase =>
    cases executed
    exact .rolledBack outcome phase
  case h_6 phase =>
    cases executed
    exact .retried phase
  case h_7 => cases executed

inductive Stepped (server : Server) : Action → Server → Prop where
  | put (t : TxId) (backend : Backend) (accountId : Id) (bytes : Bytes) (version : Int)
      (unused : server.uploads t = none) (bounds : 1 ≤ version ∧ version ≤ maxVersion)
      (named : codec backend bytes = some accountId) :
      Stepped server (.put t backend accountId bytes version)
        (server.resume t { backend, accountId, bytes, attemptedVersion := version })
  | statement (t : TxId) (upload : Upload) (next : Server) (opened : server.uploads t = some upload)
      (executed : Executed server t upload next) : Stepped server (.statement t) next
  | failed (t : TxId) (upload : Upload) (opened : server.uploads t = some upload)
      (unanswered : ∀ answer, upload.phase ≠ .answered answer) :
      Stepped server (.fail t)
        ({ server with bundles := server.bundles.abort t }.resume t
          { upload with row := none, phase := .answered .failed })

theorem step_cases {server next : Server} {action : Action}
    (stepped : step codec server action = some next) : Stepped codec server action next := by
  cases action with
  | put t backend accountId bytes version =>
      simp only [step] at stepped
      split at stepped
      · cases stepped
      · rename_i unused
        unfold putKeyBundle at stepped
        split at stepped <;> cases stepped
        rename_i checks
        exact .put _ _ _ _ _ unused ⟨checks.1, checks.2.1⟩ checks.2.2
  | statement t =>
      simp only [step, Option.bind_eq_some_iff] at stepped
      obtain ⟨upload, opened, executed⟩ := stepped
      exact .statement t upload next opened (statement_cases executed)
  | fail t =>
      simp only [step, Option.bind_eq_some_iff] at stepped
      obtain ⟨upload, opened, executed⟩ := stepped
      split at executed <;> cases executed
      exact .failed t upload opened (by assumption)

end ZenPass.Account
